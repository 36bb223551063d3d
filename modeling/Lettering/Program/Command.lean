import Lettering.Decimal.Read
import Lettering.Font.Style
import Lettering.Geometry.Plane
import Lettering.Program.Options
import Lettering.Text.Blank
import Lettering.Text.Direction

/-!
# The command line of the program

`Command.parse` reads the words of a command line. `outline` lays out a text, given as a word or in
a file; `info` tells how fonts are found.
-/

namespace Lettering

/-- How results are written. -/
inductive OutputFormat
  | json
  | svg
  deriving DecidableEq, Repr

/-- The arguments of `outline`. -/
structure OutlineArgs where
  text : Option String := none
  textFile : Option String := none
  family : String := "Sans Serif"
  slant : Slant := .normal
  weight : Weight := .normal
  direction : Direction := .auto
  document : Option String := none
  /-- The size of one em. -/
  size : Float := 1000
  compress : Float := 1
  vcompress : Float := 1
  orient : Vec := ⟨0.5, 0.5⟩
  useKerning : Bool := true
  gridFit : Bool := false
  /-- Whether to shape from the bytes of the font rather than by its character map. -/
  fromFont : Bool := false
  fontDirs : List String := []
  format : OutputFormat := .json
  output : Option String := none

/-- The options of `outline`. -/
inductive OutlineOption
  | textFile
  | family
  | style
  | weight
  | direction
  | document
  | size
  | compress
  | vcompress
  | orient
  | noKerning
  | gridFit
  | shaper
  | fontDir
  | format
  | output
  | help
  deriving DecidableEq, Repr

namespace OutlineOption

/-- The long names. -/
def longNames : List (String × OutlineOption) := [
  ("text-file", textFile), ("family", family), ("style", style), ("weight", weight),
  ("direction", direction), ("document", document), ("size", size), ("compress", compress),
  ("vcompress", vcompress), ("orient", orient), ("no-kerning", noKerning), ("grid-fit", gridFit),
  ("shaper", shaper), ("font-dir", fontDir), ("format", format), ("output", output),
  ("help", help)]

/-- The letters. -/
def letters : List (Char × OutlineOption) := [
  ('T', textFile), ('f', family), ('w', weight), ('d', direction), ('s', size), ('o', output),
  ('h', help)]

/-- How an option is used. -/
def kind : OutlineOption → OptionKind
  | noKerning | gridFit => .flag
  | fontDir => .repeated
  | help => .help
  | _ => .single

/-- A value out of a list of names. -/
def choice {α : Type} (values : List (String × α)) (value : String) : Except UsageError α :=
  match values.lookup value with
  | some a => .ok a
  | none => .error .invalidValue

/-- A path, which must not be empty. -/
def path (value : String) : Except UsageError String :=
  if value.isEmpty then .error .invalidValue else .ok value

/-- A number. -/
def number (value : String) : Except UsageError Float :=
  match Decimal.readDouble? value with
  | some x => .ok x
  | none => .error .valueValidation

/-- A weight from thin to ultra heavy. -/
def boundedWeight (value : String) : Except UsageError Weight :=
  match Decimal.readInteger? value with
  | some n => if 1 ≤ n ∧ n ≤ 1000 then .ok ⟨n⟩ else .error .valueValidation
  | none => .error .valueValidation

/-- Two numbers with a comma between them. -/
def twoNumbers (value : String) : Except UsageError Vec :=
  let cs := value.toList
  match cs.dropWhile (· != ',') with
  | [] => .error .valueValidation
  | _ :: second => do
    let x ← number (trimBlanks (String.ofList (cs.takeWhile (· != ','))))
    let y ← number (trimBlanks (String.ofList second))
    return ⟨x, y⟩

/-- Store the value of an option. -/
def store (o : OutlineOption) (value : String) (a : OutlineArgs) :
    Except UsageError OutlineArgs := do
  match o with
  | textFile => return { a with textFile := some (← path value) }
  | family => return { a with family := value }
  | style =>
    let names := [("normal", Slant.normal), ("oblique", .oblique), ("italic", .italic)]
    return { a with slant := ← choice names value }
  | weight => return { a with weight := ← boundedWeight value }
  | direction =>
    let names := [("auto", Direction.auto), ("ltr", .leftToRight), ("rtl", .rightToLeft)]
    return { a with direction := ← choice names value }
  | document => return { a with document := some (← path value) }
  | size => return { a with size := ← number value }
  | compress => return { a with compress := ← number value }
  | vcompress => return { a with vcompress := ← number value }
  | orient => return { a with orient := ← twoNumbers value }
  | noKerning => return { a with useKerning := false }
  | gridFit => return { a with gridFit := true }
  | shaper => return { a with fromFont := ← choice [("none", false), ("hr", true)] value }
  | fontDir => return { a with fontDirs := a.fontDirs ++ [← path value] }
  | format => return { a with format := ← choice [("json", .json), ("svg", .svg)] value }
  | output => return { a with output := some (← path value) }
  | help => return a

/-- The options of `outline`, with one word for the text. -/
def set : OptionSet OutlineOption OutlineArgs where
  long? := fun name => longNames.lookup name
  short? := fun letter => letters.lookup letter
  kind := kind
  store := store
  place? := fun word a => if a.text.isNone then some { a with text := some word } else none

end OutlineOption

/-- The options of `info`. -/
inductive InfoOption
  | fonts
  | help
  deriving DecidableEq, Repr

namespace InfoOption

/-- The options of `info`, which tell whether to count installed faces. -/
def set : OptionSet InfoOption Bool where
  long? := fun name => [("fonts", fonts), ("help", help)].lookup name
  short? := fun letter => if letter = 'h' then some help else none
  kind := fun | fonts => .flag | help => .help
  store := fun _ _ _ => .ok true
  place? := fun _ _ => none

end InfoOption

/-- What the program is asked to do. -/
inductive Command
  | info (countFonts : Bool)
  | outline (args : OutlineArgs)

namespace Command

/-- Read the arguments of `outline`. The text comes from a word or from a file, not from both. -/
def parseOutline (words : List String) : Except UsageError Command := do
  let args ← OptionReader.readAll OutlineOption.set { args := {} } words
  match args.text, args.textFile with
  | some _, some _ => throw .argumentConflict
  | none, none => throw .missingRequiredArgument
  | _, _ => return .outline args

/-- Read the arguments of `info`. -/
def parseInfo (words : List String) : Except UsageError Command := do
  return .info (← OptionReader.readAll InfoOption.set { args := false } words)

/-- The names of the commands. -/
def parsers : List (String × (List String → Except UsageError Command)) := [
  ("info", parseInfo), ("i", parseInfo), ("outline", parseOutline), ("o", parseOutline)]

/-- Whether a word names a command that can be asked for help. -/
def isCommandName (word : String) : Bool :=
  word == "help" || (parsers.lookup word).isSome

/-- What is asked for by options in front of a command. -/
def parseFront (word : String) : UsageError :=
  match word.toList with
  | '-' :: '-' :: rest =>
    match OptionReader.cutLong rest with
    | ("help", none) => .displayHelp
    | ("version", none) => .displayVersion
    | ("help", some _) | ("version", some _) => .tooManyValues
    | _ => .unknownArgument
  | '-' :: 'h' :: _ => .displayHelp
  | '-' :: 'V' :: _ => .displayVersion
  | '-' :: _ :: _ => .unknownArgument
  | _ => .invalidSubcommand

/-- What is asked for by words behind `help`. -/
def parseHelp : List String → UsageError
  | [] => .displayHelp
  | [word] => if isCommandName word then .displayHelp else .invalidSubcommand
  | _ => .invalidSubcommand

/-- Read a command line. -/
def parse : List String → Except UsageError Command
  | [] | ["--"] => .error .displayHelpInstead
  | "--" :: word :: _ =>
    .error (if isCommandName word then .unknownArgument else .invalidSubcommand)
  | "help" :: rest => .error (parseHelp rest)
  | word :: rest =>
    match parsers.lookup word with
    | some parser => parser rest
    | none => .error (parseFront word)

end Command

end Lettering
