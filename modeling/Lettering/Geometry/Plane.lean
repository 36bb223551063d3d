/-!
# Points, displacements and boxes

The plane that glyph outlines live in. Coordinates are double-precision numbers and every
operation is written in the order in which it is carried out, because the result of a sum of
doubles depends on that order.

* `Point`, `Vec`: positions and displacements, with `Point.shift` and `Point.midpoint`;
* `Rect`: boxes spanned by points, grown by `Rect.grow` and `Rect.union`.
-/

namespace Lettering

/-- The smaller of two numbers; an operand that is not a number is ignored. -/
def lesser (a b : Float) : Float :=
  if a.isNaN then b else if b < a then b else a

/-- The larger of two numbers; an operand that is not a number is ignored. -/
def greater (a b : Float) : Float :=
  if a.isNaN then b else if a < b then b else a

/-- A displacement, or a pair of factors along the two axes. -/
structure Vec where
  x : Float
  y : Float
  deriving Inhabited

/-- A position in the plane. -/
structure Point where
  x : Float
  y : Float
  deriving Inhabited

namespace Vec

/-- The displacement that moves nothing. -/
def zero : Vec := ⟨0, 0⟩

/-- Numerical equality of both components: zeros of either sign agree, and a component that is
not a number agrees with nothing. -/
def same (v w : Vec) : Bool := v.x == w.x && v.y == w.y

end Vec

namespace Point

/-- The origin. -/
def zero : Point := ⟨0, 0⟩

/-- The point displaced by `v`. -/
def shift (p : Point) (v : Vec) : Point := ⟨p.x + v.x, p.y + v.y⟩

/-- The displacement from the origin. -/
def toVec (p : Point) : Vec := ⟨p.x, p.y⟩

/-- The point halfway between `p` and `q`. -/
def midpoint (p q : Point) : Point := ⟨0.5 * (p.x + q.x), 0.5 * (p.y + q.y)⟩

/-- Numerical equality of both coordinates. -/
def same (p q : Point) : Bool := p.x == q.x && p.y == q.y

end Point

/-- A box with sides along the axes, from `(x0, y0)` to `(x1, y1)`. -/
structure Rect where
  x0 : Float
  y0 : Float
  x1 : Float
  y1 : Float
  deriving Inhabited

namespace Rect

/-- The box that holds the origin alone. -/
def zero : Rect := ⟨0, 0, 0, 0⟩

/-- The box spanned by two opposite corners. -/
def ofCorners (p q : Point) : Rect :=
  ⟨lesser p.x q.x, lesser p.y q.y, greater p.x q.x, greater p.y q.y⟩

/-- The box grown to hold `p`. -/
def grow (r : Rect) (p : Point) : Rect :=
  ⟨lesser r.x0 p.x, lesser r.y0 p.y, greater r.x1 p.x, greater r.y1 p.y⟩

/-- The smallest box around two boxes. -/
def union (r s : Rect) : Rect :=
  ⟨lesser r.x0 s.x0, lesser r.y0 s.y0, greater r.x1 s.x1, greater r.y1 s.y1⟩

/-- The box around a list of points, if there is one. -/
def around? : List Point → Option Rect
  | [] => none
  | p :: ps => some (ps.foldl Rect.grow (ofCorners p p))

end Rect

end Lettering
