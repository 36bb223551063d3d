import Lettering.Text.Lines

/-!
# Paths as text

Paths keep the spelling they were given. What they mean follows from their components: repeated and
trailing slashes say nothing, nor does a dot that stands for a directory, except at the very start
of a relative path.

* `Path.components` gives the meaning of a path, and `Path.same` compares by it;
* `Path.join`, `Path.parent?` and `Path.fileName?` put paths together and take them apart;
* `Path.extension?` and `Path.fileStem?` cut the file name at its last dot.
-/

namespace Lettering.Path

/-- Whether a path starts at the root. -/
def isAbsolute (path : String) : Bool := path.toList.head? == some '/'

/-- The pieces of a text between its slashes. -/
def pieces : List Char → List (List Char)
  | [] => [[]]
  | c :: rest => if c = '/' then [] :: pieces rest else consFirst c (pieces rest)

/-- What a path starts with when that counts as a component: the root, or a dot that is the whole
first piece. -/
def start : List Char → List Char
  | '/' :: _ => ['/']
  | ['.'] => ['.']
  | '.' :: '/' :: _ => ['.']
  | _ => []

/-- The pieces behind the start. -/
def body (cs : List Char) : List (List Char) := pieces (cs.drop (start cs).length)

/-- Whether a piece says nothing. -/
def isSilent (piece : List Char) : Bool := piece == [] || piece == ['.']

/-- The components of a path. -/
def components (path : String) : List (List Char) :=
  let cs := path.toList
  [start cs].filter (!·.isEmpty) ++ (body cs).filter (!isSilent ·)

/-- Whether two paths have the same components. -/
def same (a b : String) : Bool := components a == components b

/-- The pieces behind the start from the last component backwards. -/
def backwards (cs : List Char) : List (List Char) := (body cs).reverse.dropWhile isSilent

/-- The last component, if it names something. -/
def fileName? (path : String) : Option String :=
  match backwards path.toList with
  | [] => none
  | last :: _ => if last = ['.', '.'] then none else some (String.ofList last)

/-- The path without its last component. The root and the empty path have none to lose. -/
def parent? (path : String) : Option String :=
  let cs := path.toList
  match backwards cs with
  | [] => if start cs = ['.'] then some "" else none
  | _ :: before =>
    some (String.ofList (start cs ++ List.intercalate ['/'] (before.dropWhile isSilent).reverse))

/-- Cut a file name at its last dot, unless that is its first character. -/
def splitName (name : List Char) : List Char × Option (List Char) :=
  match name.reverse.dropWhile (· != '.') with
  | [] | [_] => (name, none)
  | _ :: stem => (stem.reverse, some (name.reverse.takeWhile (· != '.')).reverse)

/-- What follows the last dot of the file name. -/
def extension? (path : String) : Option String :=
  (fileName? path).bind fun name => (splitName name.toList).2.map String.ofList

/-- The file name up to its last dot. -/
def fileStem? (path : String) : Option String :=
  (fileName? path).map fun name => String.ofList (splitName name.toList).1

/-- A path seen from a directory. An absolute path is seen the same from everywhere. -/
def join (dir path : String) : String :=
  if isAbsolute path then path
  else if dir.isEmpty || dir.toList.getLast? == some '/' then dir ++ path
  else dir ++ "/" ++ path

end Lettering.Path
