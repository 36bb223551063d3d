import Lettering.Files.Tree
import Lettering.Sfnt.Face

/-!
# Font files

`FontFile.load` opens a face of a font file: a path that leads to no file is not found, a file over
the limit is not read, and bytes that are no font are invalid. `FontFile.loadPlainly` makes no
difference between the ways in which a path can fail and has no limit.
-/

namespace Lettering.FontFile

/-- The size of the largest font file that is read. -/
def sizeLimit : Nat := 50 * 1024 * 1024

/-- The failure of a path that leads nowhere. -/
def unreadable (path : String) : FileFault → FontError
  | .notFound => .fileNotFound path
  | fault => .notSupported (path ++ ": " ++ fault.message)

/-- The face of index `index` in what was found at a path, held in the given buffer. -/
def load (found : Except FileFault FileNode) (path : String) (index buffer : Nat) :
    Except FontError Face :=
  match found with
  | .error fault => .error (unreadable path fault)
  | .ok node =>
    if sizeLimit < node.size then
      .error (.notSupported (path ++ " is " ++ toString node.size ++ " bytes, limit is " ++
        toString sizeLimit))
    else
      match node.bytes? with
      | .error _ => .error (.fileNotFound path)
      | .ok bytes => Sfnt.faceOfBytes bytes index buffer

/-- The same, for whatever can be read at all. -/
def loadPlainly (found : Except FileFault FileNode) (path : String) (index buffer : Nat) :
    Except FontError Face :=
  match found >>= FileNode.bytes? with
  | .error _ => .error (.fileNotFound path)
  | .ok bytes => Sfnt.faceOfBytes bytes index buffer

end Lettering.FontFile
