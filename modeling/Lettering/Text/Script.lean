import Lettering.Text.Utf8

/-!
# Script codes

Writing systems are named by four-letter codes such as `Latn` or `Arab`. A code is four bytes;
codes that do not spell text read as the code of the unknown script.
-/

namespace Lettering

/-- A four-letter script code. -/
structure ScriptTag where
  first : UInt8
  second : UInt8
  third : UInt8
  fourth : UInt8
  deriving DecidableEq, Repr, Inhabited

namespace ScriptTag

/-- The four bytes of a code. -/
def bytes (t : ScriptTag) : List UInt8 := [t.first, t.second, t.third, t.fourth]

/-- The code of four bytes. -/
def ofBytes? : List UInt8 → Option ScriptTag
  | [a, b, c, d] => some ⟨a, b, c, d⟩
  | _ => none

/-- Characters shared by scripts. -/
def common : ScriptTag := ⟨0x5A, 0x79, 0x79, 0x79⟩

/-- Marks that take the script of what they attach to. -/
def inherited : ScriptTag := ⟨0x5A, 0x69, 0x6E, 0x68⟩

/-- The code for no known script. -/
def unknown : ScriptTag := ⟨0x5A, 0x7A, 0x7A, 0x7A⟩

/-- The code spelt by a text of four bytes, else the unknown script. -/
def ofText (s : String) : ScriptTag :=
  (ofBytes? (Utf8.encode s.toList)).getD unknown

/-- The letters of a code. -/
def text (t : ScriptTag) : String :=
  match Utf8.decode t.bytes with
  | .ok letters => String.ofList letters
  | .error _ => "Zzzz"

/-- Whether a code names no writing system of its own. -/
def isNeutral (t : ScriptTag) : Bool :=
  t == common || t == inherited || t == unknown

/-- How a code appears in a listing of values. -/
def inspect (t : ScriptTag) : String := "ScriptTag(" ++ t.text ++ ")"

end ScriptTag

end Lettering
