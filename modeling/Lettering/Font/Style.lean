/-!
# Slant and weight

What a request says about a font beside its family. Documents store both as integers.
-/

namespace Lettering

/-- The slant of a face. -/
inductive Slant
  | normal
  | oblique
  | italic
  deriving DecidableEq, Repr, Inhabited

namespace Slant

/-- The stored integer. -/
def code : Slant → Int
  | normal => 0
  | oblique => 1
  | italic => 2

/-- The slant of a stored integer. -/
def ofCode? : Int → Option Slant
  | 0 => some normal
  | 1 => some oblique
  | 2 => some italic
  | _ => none

/-- The name shown to readers of a listing. -/
def name : Slant → String
  | normal => "Normal"
  | oblique => "Oblique"
  | italic => "Italic"

/-- Oblique and italic faces share their file names. -/
def isSlanted (s : Slant) : Bool := s != normal

theorem ofCode?_code (s : Slant) : ofCode? s.code = some s := by
  cases s <;> rfl

end Slant

/-- The weight of a face: 400 is normal and 700 bold. -/
structure Weight where
  value : Int
  deriving DecidableEq, Repr, Inhabited

namespace Weight

/-- The weight of running text. -/
def normal : Weight := ⟨400⟩

/-- The weight of a stored integer. Weights are positive. -/
def ofInt? (n : Int) : Option Weight := if 0 < n then some ⟨n⟩ else none

/-- Whether a weight takes the bold files. -/
def isBold (w : Weight) : Bool := normal.value < w.value

end Weight

end Lettering
