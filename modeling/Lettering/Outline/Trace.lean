import Lettering.Outline.Command
import Lettering.Outline.Tagged

/-!
# Tracing tagged points into path commands

Two quadratic controls in a row imply a point of the curve halfway between them, a contour may
begin on a control, and cubic controls come in pairs between points of the curve.
`readContour` makes all of this explicit for the points of one contour and `Outline.trace` does
so for a whole outline.

A contour that begins on a cubic control, or ends on one that has no partner, is left out and
tracing goes on. A cubic control in any other wrong place cuts the glyph short: the open contour is
closed there and later contours are not looked at.
-/

namespace Lettering

/-- Why a contour is left out. -/
inductive ContourFault
  /-- It begins on a cubic control. -/
  | cubicStart
  /-- It ends on a cubic control without a partner. -/
  | cubicEnd
  deriving DecidableEq, Repr

/-- What reading the points of one contour gives. -/
inductive ContourReading
  /-- Every point was read. -/
  | complete (path : List PathCommand)
  /-- The contour cannot be drawn at all. -/
  | leftOut (fault : ContourFault)
  /-- Reading stopped at the point of this index within the contour. -/
  | cut (path : List PathCommand) (index : Nat)

/-- Segments read so far, and the index of the point that stopped the reading, if one did. -/
structure Segments where
  path : List PathCommand
  stop : Option Nat

namespace Segments

/-- Nothing left to read. -/
def done : Segments := ⟨[], none⟩

/-- Reading stops at the point of index `i`. -/
def stopAt (i : Nat) : Segments := ⟨[], some i⟩

/-- One more segment in front. -/
def cons (c : PathCommand) (s : Segments) : Segments := { s with path := c :: s.path }

end Segments

/-- Read the points of a contour after its opening move. `start` is where the contour opened and
will close, `control` a quadratic control still waiting for its end point, and `i` the index of
the next point. -/
def readSegments (start : Point) (control : Option Point) (i : Nat) :
    List TaggedPoint → Segments
  | [] =>
    match control with
    | none => .done
    | some c => .cons (.conicTo start c) .done
  | ⟨p, .onCurve⟩ :: rest =>
    match control with
    | none => .cons (.lineTo p) (readSegments start none (i + 1) rest)
    | some c => .cons (.conicTo p c) (readSegments start none (i + 1) rest)
  | ⟨p, .conic⟩ :: rest =>
    match control with
    | none => readSegments start (some p) (i + 1) rest
    | some c => .cons (.conicTo (c.midpoint p) c) (readSegments start (some p) (i + 1) rest)
  | ⟨p, .cubic⟩ :: rest =>
    match control, rest with
    | none, [⟨q, .cubic⟩] => .cons (.cubicTo start p q) .done
    | none, ⟨q, .cubic⟩ :: ⟨r, .onCurve⟩ :: rest =>
      .cons (.cubicTo r p q) (readSegments start none (i + 3) rest)
    | none, ⟨_, .cubic⟩ :: _ :: _ => .stopAt (i + 2)
    | _, _ => .stopAt i

/-- Open a contour at `start` and read `points`, the first of which has index `i`. -/
def readOpened (start : Point) (i : Nat) (points : List TaggedPoint) : ContourReading :=
  let segments := readSegments start none i points
  match segments.stop with
  | none => .complete (.moveTo start :: segments.path ++ [.close])
  | some i => .cut (.moveTo start :: segments.path) i

/-- Read the points of one contour. It opens at its first point if that is on the curve, else at
its last point if that is, and otherwise halfway between the two. -/
def readContour (points : List TaggedPoint) : ContourReading :=
  match points.head?, points.getLast? with
  | some first, some last =>
    match first.kind, last.kind with
    | .cubic, _ => .leftOut .cubicStart
    | .conic, .cubic => .leftOut .cubicEnd
    | .conic, .onCurve => readOpened last.point 0 points.dropLast
    | .conic, .conic => readOpened (first.point.midpoint last.point) 0 points
    | .onCurve, .cubic =>
      if points.dropLast.getLast?.map (·.kind) = some .cubic then
        readOpened first.point 1 points.tail
      else .leftOut .cubicEnd
    | .onCurve, _ => readOpened first.point 1 points.tail
  | _, _ => .complete []

/-- What went wrong with a contour. -/
inductive Defect
  /-- The contour was left out. -/
  | leftOut (fault : ContourFault) (contour : Nat)
  /-- Tracing ended in this contour at the point of this index of the outline. -/
  | unexpectedTag (contour point : Nat)
  deriving DecidableEq, Repr

/-- The commands of a whole outline and what went wrong on the way. -/
structure Tracing where
  path : List PathCommand
  defects : List Defect

namespace Tracing

/-- Nothing traced. -/
def empty : Tracing := ⟨[], []⟩

/-- Commands in front of a tracing. -/
def prepend (path : List PathCommand) (t : Tracing) : Tracing := { t with path := path ++ t.path }

/-- A defect in front of a tracing. -/
def note (d : Defect) (t : Tracing) : Tracing := { t with defects := d :: t.defects }

end Tracing

namespace Outline

/-- Trace the contours with the given ranges, the first of which has number `n`. A range that is
empty or leaves the points ends the tracing. -/
def traceRanges (o : Outline) (n : Nat) : List (Nat × Nat) → Tracing
  | [] => .empty
  | (first, last) :: rest =>
    if first ≤ last ∧ last < o.points.size then
      match readContour (o.slice first last) with
      | .complete path => .prepend path (o.traceRanges (n + 1) rest)
      | .leftOut fault => .note (.leftOut fault n) (o.traceRanges (n + 1) rest)
      | .cut path i => ⟨path ++ [.close], [.unexpectedTag n (first + i)]⟩
    else .empty

/-- The commands of an outline, contour after contour. -/
def trace (o : Outline) : Tracing :=
  o.traceRanges 0 o.contourRanges

end Outline

end Lettering
