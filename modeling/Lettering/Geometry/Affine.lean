import Lettering.Geometry.Plane

/-!
# Affine maps of the plane

`Affine` holds six coefficients; `(x, y)` goes to `(a x + c y + e, b x + d y + f)`. Products are
written out in full rather than specialised to their zeros, so that infinite coefficients
produce the same undefined entries as the general product does.
-/

namespace Lettering

/-- The map `(x, y) ↦ (a x + c y + e, b x + d y + f)`. -/
structure Affine where
  a : Float
  b : Float
  c : Float
  d : Float
  e : Float
  f : Float

namespace Affine

/-- Moving by `v`. -/
def displacing (v : Vec) : Affine := ⟨1, 0, 0, 1, v.x, v.y⟩

/-- Scaling by `v.x` across and `v.y` upwards. -/
def scaling (v : Vec) : Affine := ⟨v.x, 0, 0, v.y, 0, 0⟩

/-- `m.after n` applies `n` first. -/
def after (m n : Affine) : Affine where
  a := m.a * n.a + m.c * n.b
  b := m.b * n.a + m.d * n.b
  c := m.a * n.c + m.c * n.d
  d := m.b * n.c + m.d * n.d
  e := m.a * n.e + m.c * n.f + m.e
  f := m.b * n.e + m.d * n.f + m.f

/-- The image of a point. -/
def apply (m : Affine) (p : Point) : Point :=
  ⟨m.a * p.x + m.c * p.y + m.e, m.b * p.x + m.d * p.y + m.f⟩

/-- The box around the images of the corners of `r`. -/
def applyRect (m : Affine) (r : Rect) : Rect :=
  (Rect.ofCorners (m.apply ⟨r.x0, r.y0⟩) (m.apply ⟨r.x0, r.y1⟩)).union
    (Rect.ofCorners (m.apply ⟨r.x1, r.y0⟩) (m.apply ⟨r.x1, r.y1⟩))

end Affine

end Lettering
