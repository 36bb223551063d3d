import Lettering.Proofs.Layout.Axes
import Lettering.Proofs.Outline.Cycle

/-!
# Points that move

Hinting moves the points of a glyph and leaves their kinds and contours alone. Which commands a
tracing gives, and what it reports, depends on the latter only, and the points of the commands go
with those of the outline (`Outline.trace_moved`).

Both come from one fact, followed through the reading of a contour (`readSegments_map`,
`readContour_map`) and of an outline (`Outline.traceRanges_mapPoints`): a map that keeps halfway
points halfway can be applied to the outline or to the commands. The map that takes all points to
the origin leaves of an outline just its kinds and contours.
-/

namespace Lettering

/-- The map takes the point halfway between two others to the point halfway between their images. -/
def KeepsMidpoints (f : Point → Point) : Prop :=
  ∀ a b : Point, f (a.midpoint b) = (f a).midpoint (f b)

/-- All points can be moved to the origin. -/
theorem keepsMidpoints_zero : KeepsMidpoints fun _ => .zero := by
  have hhalf : (0.5 * (0 + 0) : Float) = 0 := by decide
  intro a b
  simp only [Point.midpoint, Point.zero, hhalf]

/-- The point on the other side of the diagonal. -/
def Point.overDiagonal (p : Point) : Point := ⟨p.y, p.x⟩

theorem keepsMidpoints_overDiagonal : KeepsMidpoints Point.overDiagonal := fun _ _ => rfl

/-- The point moved by `f`. -/
def TaggedPoint.mapPoint (f : Point → Point) (p : TaggedPoint) : TaggedPoint :=
  { p with point := f p.point }

/-- The segments with every point moved by `f`. -/
def Segments.mapPoints (f : Point → Point) (s : Segments) : Segments :=
  ⟨s.path.map (·.mapPoints f), s.stop⟩

/-- The reading with every point moved by `f`. -/
def ContourReading.mapPoints (f : Point → Point) : ContourReading → ContourReading
  | complete path => complete (path.map (·.mapPoints f))
  | leftOut fault => leftOut fault
  | cut path i => cut (path.map (·.mapPoints f)) i

/-- The tracing with every point moved by `f`. -/
def Tracing.mapPoints (f : Point → Point) (t : Tracing) : Tracing :=
  ⟨t.path.map (·.mapPoints f), t.defects⟩

variable {f : Point → Point}

@[simp] theorem PathCommand.kind_mapPoints (c : PathCommand) : (c.mapPoints f).kind = c.kind := by
  cases c <;> rfl

@[simp] theorem Segments.mapPoints_cons (c : PathCommand) (s : Segments) :
    (s.cons c).mapPoints f = (s.mapPoints f).cons (c.mapPoints f) := rfl

/-- The points of a contour can be moved before or after they are read. -/
theorem readSegments_map (hf : KeepsMidpoints f) (start : Point) (control : Option Point) (i : ℕ)
    (points : List TaggedPoint) :
    readSegments (f start) (control.map f) i (points.map (·.mapPoint f)) =
      (readSegments start control i points).mapPoints f := by
  fun_induction readSegments start control i points with
  | case1 => rfl
  | case2 => rfl
  | case3 i p rest ih => exact congrArg (Segments.cons (.lineTo (f p))) ih
  | case4 i p rest c ih => exact congrArg (Segments.cons (.conicTo (f p) (f c))) ih
  | case5 i p rest ih => exact ih
  | case6 i p rest c ih =>
    rw [Segments.mapPoints_cons, PathCommand.mapPoints, hf c p]
    exact congrArg (Segments.cons (.conicTo ((f c).midpoint (f p)) (f c))) ih
  | case7 => rfl
  | case8 i p q r rest ih => exact congrArg (Segments.cons (.cubicTo (f r) (f p) (f q))) ih
  | case9 i p q x rest hx =>
    obtain ⟨r, kind⟩ := x
    cases kind with
    | onCurve => exact absurd rfl (hx r)
    | conic | cubic => rfl
  | case10 control i p rest hone hpair hmore =>
    cases control with
    | some c => rfl
    | none =>
      rcases rest with - | ⟨⟨q, kind⟩, rest⟩
      · rfl
      · cases kind with
        | onCurve | conic => rfl
        | cubic =>
          cases rest with
          | nil => exact absurd rfl (hone q rfl)
          | cons x more => exact absurd rfl (hmore q x more rfl)

/-- And so can those of a contour that is opened. -/
theorem readOpened_map (hf : KeepsMidpoints f) (start : Point) (i : ℕ)
    (points : List TaggedPoint) :
    readOpened (f start) i (points.map (·.mapPoint f)) =
      (readOpened start i points).mapPoints f := by
  have hmap := readSegments_map hf start none i points
  rw [Option.map_none] at hmap
  rw [readOpened, readOpened, hmap]
  cases hstop : (readSegments start none i points).stop with
  | none => simp [Segments.mapPoints, hstop, ContourReading.mapPoints, PathCommand.mapPoints]
  | some k => simp [Segments.mapPoints, hstop, ContourReading.mapPoints, PathCommand.mapPoints]

theorem readContour_map (hf : KeepsMidpoints f) (points : List TaggedPoint) :
    readContour (points.map (·.mapPoint f)) = (readContour points).mapPoints f := by
  have hpartner : (points.map (·.mapPoint f)).dropLast.getLast?.map (·.kind) =
      points.dropLast.getLast?.map (·.kind) := by
    rw [← List.map_dropLast, List.getLast?_map, Option.map_map]
    rfl
  have hbody : (points.map (·.mapPoint f)).dropLast = points.dropLast.map (·.mapPoint f) :=
    List.map_dropLast.symm
  have htail : (points.map (·.mapPoint f)).tail = points.tail.map (·.mapPoint f) :=
    List.map_tail.symm
  rw [readContour, readContour, List.head?_map, List.getLast?_map, hpartner, hbody, htail]
  cases points.head? with
  | none => rfl
  | some first =>
    cases points.getLast? with
    | none => rfl
    | some last =>
      obtain ⟨p, kind⟩ := first
      obtain ⟨q, kind'⟩ := last
      simp only [Option.map_some, TaggedPoint.mapPoint]
      cases kind with
      | cubic => rfl
      | conic =>
        cases kind' with
        | cubic => rfl
        | onCurve => exact readOpened_map hf q 0 points.dropLast
        | conic =>
          rw [← hf p q]
          exact readOpened_map hf (p.midpoint q) 0 points
      | onCurve =>
        have hopened := readOpened_map hf p 1 points.tail
        cases kind' with
        | cubic =>
          dsimp only
          split
          · exact hopened
          · rfl
        | onCurve | conic => exact hopened

namespace Outline

theorem slice_mapPoints (o : Outline) (f : Point → Point) (first last : ℕ) :
    (o.mapPoints f).slice first last = (o.slice first last).map (·.mapPoint f) := by
  simp [slice, mapPoints, TaggedPoint.mapPoint]

theorem traceRanges_mapPoints (hf : KeepsMidpoints f) (o : Outline) (n : ℕ)
    (ranges : List (ℕ × ℕ)) :
    (o.mapPoints f).traceRanges n ranges = (o.traceRanges n ranges).mapPoints f := by
  have hsize : (o.mapPoints f).points.size = o.points.size := Array.size_map
  induction ranges generalizing n with
  | nil => rfl
  | cons r rest ih =>
    rw [traceRanges, traceRanges, hsize, slice_mapPoints, readContour_map hf]
    split
    · cases readContour (o.slice r.1 r.2) with
      | complete path => simp [ContourReading.mapPoints, ih, Tracing.prepend, Tracing.mapPoints]
      | leftOut fault => simp [ContourReading.mapPoints, ih, Tracing.note, Tracing.mapPoints]
      | cut path i => simp [ContourReading.mapPoints, Tracing.mapPoints, PathCommand.mapPoints]
    · rfl

/-- Kinds and contours are all that is left of an outline at the origin. -/
theorem mapPoints_zero_congr {o o' : Outline}
    (hkinds : o.points.map (·.kind) = o'.points.map (·.kind)) (hends : o.ends = o'.ends) :
    o.mapPoints (fun _ => .zero) = o'.mapPoints fun _ => .zero := by
  have hpoints := congrArg (Array.map fun kind => (⟨.zero, kind⟩ : TaggedPoint)) hkinds
  rw [Array.map_map, Array.map_map] at hpoints
  exact congrArg₂ Outline.mk hpoints hends

/-- **Points move, structure stays.** Outlines with the same kinds of points and the same contours
are traced into commands of the same kinds, with the same defects, wherever the points are. A map
that keeps halfway points halfway moves the commands as it moves the outline. -/
theorem trace_moved :
    (∀ o o' : Outline, o.points.map (·.kind) = o'.points.map (·.kind) → o.ends = o'.ends →
      o'.trace.path.map (·.kind) = o.trace.path.map (·.kind) ∧
        o'.trace.defects = o.trace.defects) ∧
    ∀ f, KeepsMidpoints f → ∀ o : Outline,
      (o.mapPoints f).trace = ⟨o.trace.path.map (·.mapPoints f), o.trace.defects⟩ := by
  have hmoved : ∀ {f}, KeepsMidpoints f → ∀ o : Outline,
      (o.mapPoints f).trace = o.trace.mapPoints f :=
    fun hf o => traceRanges_mapPoints hf o 0 o.contourRanges
  refine ⟨fun o o' hkinds hends => ?_, fun f hf o => hmoved hf o⟩
  have hzero : o.trace.mapPoints (fun _ => .zero) = o'.trace.mapPoints fun _ => .zero := by
    rw [← hmoved keepsMidpoints_zero, ← hmoved keepsMidpoints_zero,
      mapPoints_zero_congr hkinds hends]
  obtain ⟨hpath, hdefects⟩ := Tracing.mk.inj hzero
  have hkind := congrArg (List.map PathCommand.kind) hpath
  simp only [List.map_map, Function.comp_def, PathCommand.kind_mapPoints] at hkind
  exact ⟨hkind.symm, hdefects.symm⟩

/-- A leaf between two quadratic controls, and a contour that ends on a lone cubic control. -/
def leaf : Outline where
  points := #[⟨⟨0.4, 0⟩, .onCurve⟩, ⟨⟨5.3, 9.6⟩, .conic⟩, ⟨⟨10.2, 0.1⟩, .conic⟩,
    ⟨⟨20.5, 0⟩, .onCurve⟩, ⟨⟨25.5, 4.8⟩, .cubic⟩]
  ends := #[2, 4]

/-- The leaf with its points on whole units. -/
def fittedLeaf : Outline where
  points := #[⟨⟨0, 0⟩, .onCurve⟩, ⟨⟨5, 10⟩, .conic⟩, ⟨⟨10, 0⟩, .conic⟩,
    ⟨⟨21, 0⟩, .onCurve⟩, ⟨⟨26, 5⟩, .cubic⟩]
  ends := #[2, 4]

/-- Fitting the leaf keeps its commands and its defect, and its path is turned over the diagonal as
the leaf is. -/
theorem trace_moved_leaf :
    leaf.points.map (·.kind) = fittedLeaf.points.map (·.kind) ∧
      fittedLeaf.trace.path.map (·.kind) = [.moveTo, .conicTo, .conicTo, .close] ∧
      fittedLeaf.trace.defects = [.leftOut .cubicEnd 1] ∧
      (leaf.mapPoints Point.overDiagonal).trace =
        ⟨leaf.trace.path.map (·.mapPoints Point.overDiagonal), [.leftOut .cubicEnd 1]⟩ := by
  have hkinds : leaf.points.map (·.kind) = fittedLeaf.points.map (·.kind) := by
    simp [leaf, fittedLeaf]
  obtain ⟨hpath, hdefects⟩ := trace_moved.1 leaf fittedLeaf hkinds rfl
  exact ⟨hkinds, hpath, hdefects, trace_moved.2 _ keepsMidpoints_overDiagonal leaf⟩

end Outline

end Lettering
