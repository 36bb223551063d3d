/-!
# Options on a command line

How words of a command line are read as options and positional words. Long options begin with two
dashes, and their value follows the name after an equals sign or in the next word. Short options are
single letters behind one dash; several can share a dash, and the value of the last may follow at
once. After a word of two dashes, all words are positional.

A value in a word of its own is only looked at when the next option or positional word is recorded,
or at the end: the faults of `UsageError` are found in this order.
-/

namespace Lettering

/-- What is wrong with a command line, or what it asks for instead of a command. -/
inductive UsageError
  | missingRequiredArgument
  | unknownArgument
  | invalidSubcommand
  | invalidValue
  | valueValidation
  | argumentConflict
  | tooManyValues
  | displayHelp
  | displayVersion
  /-- There are no words at all. -/
  | displayHelpInstead
  deriving DecidableEq, Repr

namespace UsageError

/-- The name of a kind of error. -/
def name : UsageError → String
  | missingRequiredArgument => "MissingRequiredArgument"
  | unknownArgument => "UnknownArgument"
  | invalidSubcommand => "InvalidSubcommand"
  | invalidValue => "InvalidValue"
  | valueValidation => "ValueValidation"
  | argumentConflict => "ArgumentConflict"
  | tooManyValues => "TooManyValues"
  | displayHelp => "DisplayHelp"
  | displayVersion => "DisplayVersion"
  | displayHelpInstead => "DisplayHelpOnMissingArgumentOrSubcommand"

end UsageError

/-- How an option is used. -/
inductive OptionKind
  /-- It has no value. -/
  | flag
  /-- It has a value and is given once. -/
  | single
  /-- It has a value and may be given again. -/
  | repeated
  /-- It asks for help. -/
  | help
  deriving DecidableEq, Repr

/-- Options `O` that fill in arguments `A`. -/
structure OptionSet (O A : Type) where
  long? : String → Option O
  short? : Char → Option O
  kind : O → OptionKind
  /-- Store the value of an option; a flag comes with the empty text. -/
  store : O → String → A → Except UsageError A
  /-- Store a positional word, if there is a place left for it. -/
  place? : String → A → Option A

/-- What has been read of a command line. -/
structure OptionReader (O A : Type) where
  args : A
  given : List O := []
  /-- An option that is not recorded yet, with its value if that has been read. -/
  waiting : Option (O × Option String) := none

namespace OptionReader

variable {O A : Type} [DecidableEq O]

/-- Record an option. -/
def record (set : OptionSet O A) (r : OptionReader O A) (o : O) (value : Option String) :
    Except UsageError (OptionReader O A) :=
  let kind := set.kind o
  if value.isNone && kind ≠ .flag then .error .invalidValue
  else if kind ≠ .repeated && r.given.contains o then .error .argumentConflict
  else do return { r with args := ← set.store o (value.getD "") r.args, given := o :: r.given }

/-- Record the option that waits. -/
def settle (set : OptionSet O A) (r : OptionReader O A) : Except UsageError (OptionReader O A) :=
  match r.waiting with
  | none => .ok r
  | some (o, value) => { r with waiting := none }.record set o value

/-- Record an option after the one that waits. -/
def give (set : OptionSet O A) (r : OptionReader O A) (o : O) (value : Option String) :
    Except UsageError (OptionReader O A) := do
  (← r.settle set).record set o value

/-- Let an option wait for its value. -/
def await (set : OptionSet O A) (r : OptionReader O A) (o : O) :
    Except UsageError (OptionReader O A) := do
  return { ← r.settle set with waiting := some (o, none) }

/-- Answer a request for help. -/
def askHelp (set : OptionSet O A) (r : OptionReader O A) :
    Except UsageError (OptionReader O A) := do
  let _ ← r.settle set
  throw .displayHelp

/-- Read a long option with the value attached to it. -/
def readLong (set : OptionSet O A) (r : OptionReader O A) (name : String)
    (value : Option String) : Except UsageError (OptionReader O A) :=
  match set.long? name with
  | none => .error .unknownArgument
  | some o =>
    match set.kind o, value with
    | .flag, some _ | .help, some _ => .error .tooManyValues
    | .flag, none => r.give set o none
    | .help, none => r.askHelp set
    | _, some v => r.give set o (some v)
    | _, none => r.await set o

/-- Read the short options behind a dash. -/
def readShort (set : OptionSet O A) (r : OptionReader O A) :
    List Char → Except UsageError (OptionReader O A)
  | [] => .ok r
  | c :: rest =>
    match set.short? c with
    | none => .error .unknownArgument
    | some o =>
      match set.kind o, rest with
      | .flag, _ => do (← r.give set o none).readShort set rest
      | .help, _ => r.askHelp set
      | _, [] => r.await set o
      | _, '=' :: value => r.give set o (some (String.ofList value))
      | _, value => r.give set o (some (String.ofList value))

/-- Read a positional word. -/
def readPositional (set : OptionSet O A) (r : OptionReader O A) (word : String) :
    Except UsageError (OptionReader O A) :=
  if (set.place? word r.args).isNone then .error .unknownArgument
  else do
    let r ← r.settle set
    match set.place? word r.args with
    | some args => return { r with args }
    | none => throw .unknownArgument

/-- Read a word that is no option: the value that is waited for, or a positional word. -/
def readPlain (set : OptionSet O A) (r : OptionReader O A) (word : String) :
    Except UsageError (OptionReader O A) :=
  match r.waiting with
  | some (o, none) => .ok { r with waiting := some (o, some word) }
  | _ => r.readPositional set word

/-- Cut the name of a long option from the value attached to it. -/
def cutLong (cs : List Char) : String × Option String :=
  let name := String.ofList (cs.takeWhile (· != '='))
  match cs.dropWhile (· != '=') with
  | [] => (name, none)
  | _ :: value => (name, some (String.ofList value))

/-- Read one word before a word of two dashes. -/
def readWord (set : OptionSet O A) (r : OptionReader O A) (word : String) :
    Except UsageError (OptionReader O A) :=
  match word.toList with
  | '-' :: '-' :: rest => r.readLong set (cutLong rest).1 (cutLong rest).2
  | '-' :: c :: rest => r.readShort set (c :: rest)
  | _ => r.readPlain set word

/-- Read all words and record what waits at the end. -/
def readAll (set : OptionSet O A) (r : OptionReader O A) : List String → Except UsageError A
  | [] => do return (← r.settle set).args
  | word :: rest =>
    if word = "--" then do
      let r ← rest.foldlM (readPositional set) r
      return (← r.settle set).args
    else do (← r.readWord set word).readAll set rest

end OptionReader

end Lettering
