import Lettering.Geometry.Plane

/-!
# Outlines as tagged points

A font stores a glyph as points in contours. Each point is on the curve or controls a quadratic
or cubic segment, and a contour is given by the index of its last point. `Outline` is that
form; a point and its kind are one value, so there are always as many kinds as points.

* `Outline.push`, `Outline.endContour` build one contour after another;
* `Outline.contourRanges` lists the first and last index of each contour, as the recorded ends
  say, whether or not those indices exist;
* `Outline.controlBox` is the box around all points.
-/

namespace Lettering

/-- The part a point plays in its contour. -/
inductive PointKind
  | onCurve
  /-- Controls a quadratic segment. -/
  | conic
  /-- Controls a cubic segment, together with a second such point. -/
  | cubic
  deriving DecidableEq, Repr, Inhabited

/-- A point of a contour with its kind. -/
structure TaggedPoint where
  point : Point
  kind : PointKind
  deriving Inhabited

/-- A glyph outline: points, and the index of the last point of every contour. -/
structure Outline where
  points : Array TaggedPoint := #[]
  ends : Array Nat := #[]
  deriving Inhabited

namespace Outline

/-- The outline without points. -/
def empty : Outline := {}

/-- Append a point to the contour being built. -/
def push (o : Outline) (p : Point) (k : PointKind) : Outline :=
  { o with points := o.points.push ⟨p, k⟩ }

/-- The index at which the contour after the last recorded end begins. -/
def openStart (o : Outline) : Nat :=
  match o.ends.back? with
  | some last => last + 1
  | none => 0

/-- Finish the contour being built; a contour without points leaves no trace. -/
def endContour (o : Outline) : Outline :=
  if o.openStart < o.points.size then { o with ends := o.ends.push (o.points.size - 1) } else o

/-- Consecutive ranges, the first starting at `start`, each later one after the end before it. -/
def rangesFrom (start : Nat) : List Nat → List (Nat × Nat)
  | [] => []
  | last :: rest => (start, last) :: rangesFrom (last + 1) rest

/-- The first and last point index of every contour. -/
def contourRanges (o : Outline) : List (Nat × Nat) :=
  rangesFrom 0 o.ends.toList

/-- The box around all points; the zero box when there are none. -/
def controlBox (o : Outline) : Rect :=
  (Rect.around? (o.points.toList.map (·.point))).getD Rect.zero

/-- The points from index `first` to index `last`. -/
def slice (o : Outline) (first last : Nat) : List TaggedPoint :=
  (o.points.extract first (last + 1)).toList

/-- The outline with every point moved by `f`; kinds and contours stay. -/
def mapPoints (f : Point → Point) (o : Outline) : Outline :=
  { o with points := o.points.map fun p => { p with point := f p.point } }

end Outline

end Lettering
