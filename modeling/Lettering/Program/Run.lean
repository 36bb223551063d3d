import Lettering.Files.FontFile
import Lettering.Font.Catalogue
import Lettering.Layer.Sync
import Lettering.Program.Command
import Lettering.Report.Drawing
import Lettering.Report.Layer
import Lettering.Shaping.Prepared

/-!
# The program

`Host.run` carries out a command with the files and settings of a `Host`. What it prints and how it
fails is an `Outcome`.
-/

namespace Lettering

/-- What the program needs from where it runs, with the effects of `m`. -/
structure Host (m : Type → Type) where
  /-- What is at a path. -/
  read : String → m (Except FileFault FileNode)
  /-- Put a text into a file. -/
  write : String → String → m (Except FileFault Unit)
  /-- Directories for fonts from the environment. -/
  fontPath : Option (List UInt8) := none
  /-- The home directory. -/
  home : String := ""
  installed : FontCatalogue := {}

/-- What a command printed, and why it failed if it did. -/
structure Outcome where
  printed : String := ""
  failure : Option String := none

/-- The environment variable with directories for fonts. -/
def fontPathVariable : String := "GLYPHPATH_FONT_PATH"

namespace Host

variable {m : Type → Type}

/-- How fonts are looked for. -/
def search (h : Host m) : SearchConfig :=
  match h.fontPath with
  | some value => .withPath h.home value
  | none => {}

/-! ## Information -/

/-- A text with blanks behind it, up to a width. -/
def padded (width : Nat) (s : String) : String :=
  s ++ String.ofList (List.replicate (width - s.length) ' ')

/-- A directory in the listing of directories. -/
def describeDir (d : SearchDir) : String :=
  let shown := if d.path.isEmpty then "<working directory>" else d.path
  "  " ++ padded 40 shown ++ " " ++ d.origin.name

/-- How fonts are found. -/
def info (h : Host m) (countFonts : Bool) : Outcome :=
  let lines :=
    ["glyphpath v0.3.0", "", "Shapers:",
      "  none              - One glyph per character through the cmap",
      "  hr                - Harfrust (ligatures, contextual forms)", "",
      "Font search order (extend with " ++ fontPathVariable ++ "):"] ++
    (h.search.dirs none).map describeDir ++
    ["  default family: " ++ h.search.defaultFamily] ++
    (if countFonts then
      ["", "System font database: " ++ toString h.installed.faces.length ++ " faces"]
    else [])
  { printed := String.join (lines.map (· ++ "\n")) }

/-! ## Outlines -/

/-- What layers work with. -/
def context (h : Host m) (args : OutlineArgs) : TextContext Face where
  view := id
  shaper := if args.fromFont then .prepared else .characterMap
  config := { h.search with extraDirs := h.search.extraDirs ++ args.fontDirs }

/-- The layer that the arguments describe. -/
def layer (args : OutlineArgs) (text : String) : TextLayer Face :=
  let params : LayerParams := {
    text, family := args.family, slant := args.slant, weight := args.weight
    direction := args.direction, size := ⟨args.size, args.size⟩, orient := args.orient
    compress := args.compress, vcompress := args.vcompress, useKerning := args.useKerning
    gridFit := args.gridFit }
  (TextLayer.setDocument { params } args.document).2

/-- What is written for a layer that has been brought up to date. -/
def rendered (ctx : TextContext Face) (format : OutputFormat) (g : TextGeometry)
    (l : TextLayer Face) : String :=
  match format with
  | .json => (l.report ctx g).render
  | .svg => g.drawing

variable [Monad m]

/-- Faces from the files of a host, and the installed fonts. -/
def fonts (h : Host m) : FontQuery.FontSource m Face where
  load file := do return (FontFile.load (← h.read file.path) file.path file.index 0).toOption
  find family slant weight := pure (h.installed.find? family slant weight)

/-- The text to lay out. Malformed parts of a file are left out. -/
def readText (h : Host m) (args : OutlineArgs) : m (Except String String) := do
  match args.textFile with
  | none => return .ok (args.text.getD "")
  | some path =>
    match (← h.read path) >>= FileNode.bytes? with
    | .ok bytes => return .ok (String.ofList (Utf8.decodeSkipping bytes.toList))
    | .error _ => return .error ("reading " ++ path)

/-- Lay out a text and write its outlines. -/
def outline (h : Host m) (args : OutlineArgs) : m Outcome := do
  match ← h.readText args with
  | .error failure => return { failure := some failure }
  | .ok text =>
    let ctx := h.context args
    let ((geometry, layer), _) ← ((layer args text).sync ctx).run h.fonts .empty
    let result := rendered ctx args.format geometry layer
    match args.output with
    | none => return { printed := result ++ "\n" }
    | some path =>
      match ← h.write path result with
      | .ok _ => return {}
      | .error _ => return { failure := some ("writing " ++ path) }

/-- Carry out a command. -/
def run (h : Host m) : Command → m Outcome
  | .info countFonts => pure (h.info countFonts)
  | .outline args => h.outline args

end Host

end Lettering
