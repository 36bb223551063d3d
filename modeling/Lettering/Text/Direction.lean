/-!
# Paragraph direction

The base direction asked for a text. Documents store it as a small integer.
-/

namespace Lettering

/-- The base direction of a paragraph. -/
inductive Direction
  /-- Given by the first strong character. -/
  | auto
  | leftToRight
  | rightToLeft
  deriving DecidableEq, Repr, Inhabited

namespace Direction

/-- The stored integer. -/
def code : Direction → Int
  | auto => 0
  | leftToRight => 1
  | rightToLeft => 2

/-- The direction of a stored integer. -/
def ofCode? : Int → Option Direction
  | 0 => some auto
  | 1 => some leftToRight
  | 2 => some rightToLeft
  | _ => none

/-- The name shown to readers of a listing. -/
def name : Direction → String
  | auto => "Auto"
  | leftToRight => "Ltr"
  | rightToLeft => "Rtl"

theorem ofCode?_code (d : Direction) : ofCode? d.code = some d := by
  cases d <;> rfl

end Direction

end Lettering
