import Lettering.Geometry.Affine

/-!
# Path commands

What the library draws: a list of `PathCommand`s, each opening a contour, adding a segment to it
or closing it. `PathElement` is the same path in the order of arguments that drawing programs
expect, controls before the end point.

* `PathCommand.mapPoints` moves every coordinate; `PathCommand.shift` is the case of a displacement;
* `controlBounds?` is the box around every coordinate, controls included.
-/

namespace Lettering

/-- One step of a path. -/
inductive PathCommand
  /-- Open a contour at a point. -/
  | moveTo (target : Point)
  /-- A straight segment. -/
  | lineTo (target : Point)
  /-- A quadratic segment with one control point. -/
  | conicTo (target control : Point)
  /-- A cubic segment with two control points. -/
  | cubicTo (target control₁ control₂ : Point)
  /-- Close the contour. -/
  | close
  deriving Inhabited

namespace PathCommand

/-- The same command with every coordinate moved by `f`. -/
def mapPoints (f : Point → Point) : PathCommand → PathCommand
  | moveTo p => moveTo (f p)
  | lineTo p => lineTo (f p)
  | conicTo p c => conicTo (f p) (f c)
  | cubicTo p c₁ c₂ => cubicTo (f p) (f c₁) (f c₂)
  | close => close

/-- The same command displaced by `v`. -/
def shift (v : Vec) : PathCommand → PathCommand :=
  mapPoints (·.shift v)

/-- The coordinates of a command: its end point, then its controls. -/
def points : PathCommand → List Point
  | moveTo p => [p]
  | lineTo p => [p]
  | conicTo p c => [p, c]
  | cubicTo p c₁ c₂ => [p, c₁, c₂]
  | close => []

end PathCommand

/-- The box around every coordinate of a path, none when it has no coordinates. -/
def controlBounds? (path : List PathCommand) : Option Rect :=
  Rect.around? (path.flatMap PathCommand.points)

/-- A path element in drawing order: controls first, end point last. -/
inductive PathElement
  | move (target : Point)
  | line (target : Point)
  | quad (control target : Point)
  | curve (control₁ control₂ target : Point)
  | close
  deriving Inhabited

namespace PathElement

/-- The element of a command. -/
def ofCommand : PathCommand → PathElement
  | .moveTo p => move p
  | .lineTo p => line p
  | .conicTo p c => quad c p
  | .cubicTo p c₁ c₂ => curve c₁ c₂ p
  | .close => close

/-- The image of an element under an affine map. -/
def transform (m : Affine) : PathElement → PathElement
  | move p => move (m.apply p)
  | line p => line (m.apply p)
  | quad c p => quad (m.apply c) (m.apply p)
  | curve c₁ c₂ p => curve (m.apply c₁) (m.apply c₂) (m.apply p)
  | close => close

end PathElement

/-- A path as drawing elements. -/
def elements (path : List PathCommand) : List PathElement :=
  path.map PathElement.ofCommand

end Lettering
