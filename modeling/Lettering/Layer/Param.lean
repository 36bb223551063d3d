import Lettering.Error
import Lettering.Geometry.Plane

/-!
# Names and values of parameters

Hosts read and write the parameters of a layer by name, as values of a few types. A value of the
wrong type is refused with the name that the host used.
-/

namespace Lettering

/-- The value of a parameter. -/
inductive ParamValue
  | string (s : String)
  | integer (n : Int)
  | real (x : Float)
  | bool (b : Bool)
  | vector (v : Vec)

/-- The parameters of a layer. -/
inductive ParamName
  | text
  | family
  | style
  | weight
  | direction
  | size
  | orient
  | origin
  | compress
  | vcompress
  | font
  | useKerning
  | gridFit
  deriving DecidableEq, Repr

namespace ParamName

/-- The names that hosts use; the origin goes by two of them. -/
def table : List (String × ParamName) := [
  ("text", text), ("family", family), ("style", style), ("weight", weight),
  ("direction", direction), ("size", size), ("orient", orient), ("origin", origin),
  ("pos", origin), ("compress", compress), ("vcompress", vcompress), ("font", font),
  ("use_kerning", useKerning), ("grid_fit", gridFit)]

/-- The parameter of a name. -/
def ofString? (name : String) : Option ParamName := table.lookup name

end ParamName

namespace ParamValue

/-- The text in a value for a parameter. -/
def string? (name : String) : ParamValue → Except ParamError String
  | string s => .ok s
  | _ => .error (.typeMismatch name .string)

/-- The integer in a value for a parameter. -/
def integer? (name : String) : ParamValue → Except ParamError Int
  | integer n => .ok n
  | _ => .error (.typeMismatch name .integer)

/-- The number in a value for a parameter. Integers count as numbers. -/
def real? (name : String) : ParamValue → Except ParamError Float
  | real x => .ok x
  | integer n => .ok (Float.ofInt n)
  | _ => .error (.typeMismatch name .real)

/-- The truth value in a value for a parameter. -/
def bool? (name : String) : ParamValue → Except ParamError Bool
  | bool b => .ok b
  | _ => .error (.typeMismatch name .bool)

/-- The vector in a value for a parameter. -/
def vector? (name : String) : ParamValue → Except ParamError Vec
  | vector v => .ok v
  | _ => .error (.typeMismatch name .vector)

/-- The integer in a value for a parameter that stores a choice. -/
def choice? {α : Type} (name : String) (ofCode? : Int → Option α) (v : ParamValue) :
    Except ParamError α := do
  let n ← v.integer? name
  match ofCode? n with
  | some a => return a
  | none => throw (.outOfRange name n)

end ParamValue

end Lettering
