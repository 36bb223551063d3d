import Lettering.Text.Visible

/-!
# Quoted text in listings

A listing of values puts text between double quotes. Inside, the quote, the backslash and four
controls are escaped by a letter, and other characters that do not show by their number. Paths
escape the single quote too.
-/

namespace Lettering.Quoted

/-- The number of a character, as an escape. -/
def numbered (c : Char) : List Char :=
  "\\u\x7b".toList ++ Nat.toDigits 16 c.toNat ++ ['\x7d']

/-- A character between quotes, where those in `guarded` take a backslash. -/
def escape (guarded : List Char) (c : Char) : List Char :=
  match c with
  | '\x00' => ['\\', '0']
  | '\t' => ['\\', 't']
  | '\r' => ['\\', 'r']
  | '\n' => ['\\', 'n']
  | _ =>
    if guarded.contains c then ['\\', c]
    else if showsAlone c then [c]
    else numbered c

/-- A text between quotes. -/
def quote (guarded : List Char) (s : String) : String :=
  String.ofList ('"' :: s.toList.flatMap (escape guarded) ++ ['"'])

/-- A text in a listing. -/
def text (s : String) : String := quote ['\\', '"'] s

/-- A path in a listing. -/
def path (s : String) : String := quote ['\\', '"', '\''] s

end Lettering.Quoted
