import Lettering.Decimal.Style

/-!
# Reports in JSON

A report is a value of records, lists, texts and numbers. `ReportValue.render` writes it in JSON, an
item to a line and two blanks for each level. JSON has no infinities, so numbers that are not finite
are written as `null`.
-/

namespace Lettering

/-- A value in a report. -/
inductive ReportValue
  | null
  | text (s : String)
  | whole (n : Nat)
  | number (x : Float)
  | list (items : List ReportValue)
  | record (fields : List (String × ReportValue))

namespace ReportValue

/-- A character within quotes. -/
def escapeChar (c : Char) : List Char :=
  match c with
  | '"' => ['\\', '"']
  | '\\' => ['\\', '\\']
  | '\x08' => ['\\', 'b']
  | '\x0c' => ['\\', 'f']
  | '\n' => ['\\', 'n']
  | '\r' => ['\\', 'r']
  | '\t' => ['\\', 't']
  | _ =>
    if c.toNat < 0x20 then
      ['\\', 'u', '0', '0', Nat.digitChar (c.toNat / 16), Nat.digitChar (c.toNat % 16)]
    else [c]

/-- A text within quotes. -/
def quoted (s : String) : String :=
  String.ofList ('"' :: s.toList.flatMap escapeChar ++ ['"'])

/-- The start of a line. -/
def newLine (depth : Nat) : String := "\n" ++ String.ofList (List.replicate (2 * depth) ' ')

/-- Items between brackets, each on a line of its own. -/
def enclose (first last : String) (depth : Nat) : List String → String
  | [] => first ++ last
  | items =>
    first ++ newLine (depth + 1) ++ ("," ++ newLine (depth + 1)).intercalate items ++
      newLine depth ++ last

mutual

/-- Write a value whose first line is already indented to `depth`. -/
def renderAt (depth : Nat) : ReportValue → String
  | null => "null"
  | text s => quoted s
  | whole n => toString n
  | number x => if x.isFinite then Decimal.reportStyle.write x else "null"
  | list items => enclose "[" "]" depth (renderItems (depth + 1) items)
  | record fields => enclose "\x7b" "\x7d" depth (renderFields (depth + 1) fields)

/-- Write the items of a list. -/
def renderItems (depth : Nat) : List ReportValue → List String
  | [] => []
  | item :: rest => renderAt depth item :: renderItems depth rest

/-- Write the fields of a record. -/
def renderFields (depth : Nat) : List (String × ReportValue) → List String
  | [] => []
  | (name, value) :: rest =>
    (quoted name ++ ": " ++ renderAt depth value) :: renderFields depth rest

end

/-- Write a report. -/
def render (v : ReportValue) : String := renderAt 0 v

end ReportValue

end Lettering
