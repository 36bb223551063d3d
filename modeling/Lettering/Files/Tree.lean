import Lettering.Files.Path
import Lettering.Text.Utf8

/-!
# A tree of files

`FileTree` is a file system as a value: files by their path below the working directory, and nothing
but directories above it. Looking up a path walks its pieces one by one, so the first piece that
cannot be taken decides how a lookup fails.

* `FileTree.lookup` gives what is at a path;
* `FileTree.write` puts a text into a file;
* `FileTree.filesBelow` lists the files of a directory and of those in it.
-/

namespace Lettering

/-- Why a path leads nowhere. -/
inductive FileFault
  | notFound
  /-- Something on the way is a file. -/
  | notADirectory
  | isADirectory
  | nameTooLong
  | nulByte
  deriving DecidableEq, Repr

namespace FileFault

/-- The wording of a fault. -/
def message : FileFault → String
  | notFound => "No such file or directory (os error 2)"
  | notADirectory => "Not a directory (os error 20)"
  | isADirectory => "Is a directory (os error 21)"
  | nameTooLong => "File name too long (os error 36)"
  | nulByte => "file name contained an unexpected NUL byte"

end FileFault

/-- What a path can lead to. -/
inductive FileNode
  | directory
  | data (bytes : ByteArray)
  /-- A file of zero bytes, of which only the number is kept. -/
  | zeros (count : Nat)

namespace FileNode

/-- Some zero bytes. -/
def zeroBytes (count : Nat) : ByteArray := Nat.repeat (·.push 0) count .empty

/-- The length of a file. -/
def size : FileNode → Nat
  | directory => 0
  | data bytes => bytes.size
  | zeros count => count

/-- The bytes of a file. A directory has none to read. -/
def bytes? : FileNode → Except FileFault ByteArray
  | directory => .error .isADirectory
  | data bytes => .ok bytes
  | zeros count => .ok (zeroBytes count)

end FileNode

/-- The pieces of a path from the working directory down. -/
abbrev FilePlace := List (List Char)

/-- Files and directories by their place. -/
structure FileTree where
  entries : List (FilePlace × FileNode) := []

namespace FileTree

/-- The longest piece of a path, in bytes. -/
def maxPieceSize : Nat := 255

/-- The longest path, in bytes. -/
def maxPathSize : Nat := 4095

/-- What is at a place: an entry, or a directory that an entry lies in. -/
def node? (t : FileTree) (place : FilePlace) : Option FileNode :=
  match t.entries.lookup place with
  | some node => some node
  | none =>
    if place.isEmpty || t.entries.any (place.isPrefixOf ·.1) then some .directory else none

/-- Where a walk has come to: a place of the tree, or a directory above it. -/
inductive Spot
  | inside (place : FilePlace)
  | above

/-- What is at a spot. -/
def at? (t : FileTree) : Spot → Option FileNode
  | .inside place => t.node? place
  | .above => some .directory

/-- Take one piece of a path. -/
def enter (t : FileTree) (spot : Spot) (piece : List Char) : Except FileFault Spot :=
  match t.at? spot with
  | none => .error .notFound
  | some .directory =>
    if Path.isSilent piece then .ok spot
    else if maxPieceSize < (Utf8.encode piece).length then .error .nameTooLong
    else
      match spot with
      | .above => if piece = ['.', '.'] then .ok .above else .error .notFound
      | .inside place =>
        if piece = ['.', '.'] then
          .ok (if place.isEmpty then .above else .inside place.dropLast)
        else .ok (.inside (place ++ [piece]))
  | some _ => .error .notADirectory

/-- Walk along a path as far as there is something. The last piece need not exist. -/
def walk (t : FileTree) (path : String) : Except FileFault Spot :=
  let cs := path.toList
  if cs.contains '\x00' then .error .nulByte
  else if cs.isEmpty then .error .notFound
  else if maxPathSize < (Utf8.encode cs).length then .error .nameTooLong
  else (Path.pieces cs).foldlM t.enter (if Path.isAbsolute path then .above else .inside [])

/-- What is at a path. -/
def lookup (t : FileTree) (path : String) : Except FileFault FileNode := do
  match t.at? (← t.walk path) with
  | some node => return node
  | none => throw .notFound

/-- Put an entry at a place, instead of an older one. -/
def put (t : FileTree) (place : FilePlace) (node : FileNode) : FileTree :=
  ⟨(place, node) :: t.entries.filter (·.1 != place)⟩

/-- Put a text into a file of an existing directory. -/
def write (t : FileTree) (path text : String) : Except FileFault FileTree := do
  match ← t.walk path with
  | .above => throw .isADirectory
  | .inside place =>
    match t.node? place with
    | some .directory => throw .isADirectory
    | _ => return t.put place (.data text.toUTF8)

/-- The files in a directory and in those below it, with their paths. -/
def filesBelow (t : FileTree) (dir : String) : List (String × FileNode) :=
  match t.walk dir with
  | .ok (.inside place) =>
    t.entries.filterMap fun (other, node) =>
      match node with
      | .directory => none
      | file =>
        if place.isPrefixOf other && other != place then
          let rest := List.intercalate ['/'] (other.drop place.length)
          some (Path.join dir (String.ofList rest), file)
        else none
  | _ => []

end FileTree

end Lettering
