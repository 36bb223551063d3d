import Lettering.Files.Path
import Lettering.Text.Blank
import Lettering.Text.Utf8

/-!
# Where fonts are looked for

A name of a font file is looked for in the working directory, next to the document, in the extra
directories of the configuration and in the directories of the system, in this order
(`SearchConfig.dirs`). `SearchConfig.withPath` reads the extra directories from the value of an
environment variable.
-/

namespace Lettering

/-- The extensions of font files, in the order they are tried. -/
def fontExtensions : List String := [".ttf", ".otf", ".ttc"]

/-- Whether a name ends in the extension of a font file. -/
def hasFontExtension (name : String) : Bool :=
  match Path.extension? name with
  | none => false
  | some e => fontExtensions.any (sameIgnoringCase · ("." ++ e))

/-- Whether a name stands for a file rather than a family. -/
def namesFile (name : String) : Bool := hasFontExtension name || Path.isAbsolute name

/-- Why a directory is searched. -/
inductive DirOrigin
  /-- It is the working directory, or the name was absolute. -/
  | relative
  | document
  | extra
  | system
  deriving DecidableEq, Repr

namespace DirOrigin

/-- The name in listings. -/
def name : DirOrigin → String
  | relative => "Relative"
  | document => "Document"
  | extra => "Extra"
  | system => "System"

end DirOrigin

/-- A directory that is searched. -/
structure SearchDir where
  path : String
  origin : DirOrigin
  deriving DecidableEq, Repr

namespace SearchDir

/-- The working directory. -/
def working : SearchDir := ⟨"", .relative⟩

/-- Where a file of this name would be. -/
def locate (d : SearchDir) (name : String) : String := Path.join d.path name

end SearchDir

/-- The directories of the system that hold fonts. -/
def systemFontDirs : List String := ["/usr/share/fonts/truetype/", "/usr/share/fonts/opentype/"]

/-- How fonts are looked for. -/
structure SearchConfig where
  extraDirs : List String := []
  /-- The family that stands in for one that is not found. -/
  defaultFamily : String := "sans serif"
  /-- Whether a matcher may answer before files are tried. -/
  useMatcher : Bool := true
  useSystemDirs : Bool := true

namespace SearchConfig

/-- The directories to search for a document that lives in `documentDir`, in order. -/
def dirs (c : SearchConfig) (documentDir : Option String) : List SearchDir :=
  [SearchDir.working] ++
    ((documentDir.filter (!·.isEmpty)).toList.map (⟨·, .document⟩)) ++
    (c.extraDirs.map (⟨·, .extra⟩)) ++
    ((if c.useSystemDirs then systemFontDirs else []).map (⟨·, .system⟩))

/-- A leading tilde, alone or before a slash, stands for the home directory. -/
def expandTilde (home : String) (dir : List Char) : List Char :=
  match dir with
  | ['~'] => home.toList
  | '~' :: '/' :: rest => home.toList ++ '/' :: rest
  | _ => dir

/-- The pieces of a list of directories, which are separated by colons. -/
def pathEntries : List UInt8 → List (List UInt8)
  | [] => [[]]
  | b :: rest =>
    if b = 0x3A then [] :: pathEntries rest
    else
      match pathEntries rest with
      | [] => [[b]]
      | entry :: more => (b :: entry) :: more

/-- The directory of an entry. Entries that are empty or not text are left out. -/
def entryDir? (home : String) (entry : List UInt8) : Option String :=
  match Utf8.decode entry with
  | .ok [] => none
  | .ok dir => some (String.ofList (expandTilde home dir))
  | .error _ => none

/-- The default configuration with the directories listed in a value. -/
def withPath (home : String) (value : List UInt8) : SearchConfig :=
  { extraDirs := (pathEntries value).filterMap (entryDir? home) }

end SearchConfig

end Lettering
