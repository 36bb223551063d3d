import Lettering.Outline.Tagged

/-!
# Recording drawing calls

Fonts draw their glyphs through a pen: moves, lines, curves and closes. `PenCall.record` writes the
calls down as an outline of tagged points, a quadratic control as a conic point and a pair of
cubic controls as two cubic points.
-/

namespace Lettering

/-- One call of a pen. -/
inductive PenCall
  | move (target : Point)
  | line (target : Point)
  | quad (control target : Point)
  | curve (control₁ control₂ target : Point)
  | close
  deriving Inhabited

/-- An outline being recorded, and whether its last contour is still open. -/
structure Recording where
  outline : Outline := {}
  isOpen : Bool := false

namespace Recording

/-- Record one call. A move ends the contour before it. -/
def call (r : Recording) : PenCall → Recording
  | .move p =>
    let o := if r.isOpen then r.outline.endContour else r.outline
    ⟨o.push p .onCurve, true⟩
  | .line p => { r with outline := r.outline.push p .onCurve }
  | .quad c p => { r with outline := (r.outline.push c .conic).push p .onCurve }
  | .curve c₁ c₂ p =>
    { r with outline := ((r.outline.push c₁ .cubic).push c₂ .cubic).push p .onCurve }
  | .close => ⟨r.outline.endContour, false⟩

/-- The recorded outline, its last contour ended. -/
def finish (r : Recording) : Outline :=
  if r.isOpen then r.outline.endContour else r.outline

end Recording

namespace PenCall

/-- The outline that some calls draw. -/
def record (calls : List PenCall) : Outline :=
  (calls.foldl Recording.call {}).finish

end PenCall

end Lettering
