import Lettering.Outline.Command

/-!
# Text placed in a layer

`TextGeometry` is what a layer hands to whoever draws it: a path in font units around the origin,
and the affine map that takes it to its place in the layer.
-/

namespace Lettering

/-- A path in font units with its map into the layer. -/
structure TextGeometry where
  path : List PathCommand
  transform : Affine
  /-- The box around the placed text. -/
  bounds : Rect

namespace TextGeometry

/-- Place a path: one em becomes `size`, and the origin goes to `origin`. A path without
coordinates has the box of `origin` alone. -/
def place (path : List PathCommand) (origin : Point) (size : Vec) (unitsPerEm : Nat) :
    TextGeometry :=
  let em := Float.ofNat (max unitsPerEm 1)
  let transform := (Affine.displacing origin.toVec).after (.scaling ⟨size.x / em, size.y / em⟩)
  { path
    transform
    bounds :=
      match controlBounds? path with
      | some box => transform.applyRect box
      | none => .ofCorners origin origin }

/-- Nothing to draw, at `origin`. -/
def empty (origin : Point) : TextGeometry :=
  place [] origin ⟨1, 1⟩ 1

/-- The path in the layer's coordinates. -/
def world (g : TextGeometry) : List PathCommand :=
  g.path.map (·.mapPoints g.transform.apply)

/-- The drawing elements in the layer's coordinates: first converted, then transformed. -/
def elements (g : TextGeometry) : List PathElement :=
  (Lettering.elements g.path).map (·.transform g.transform)

end TextGeometry

end Lettering
