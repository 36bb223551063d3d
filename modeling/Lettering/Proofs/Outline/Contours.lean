import Lettering.Outline.Trace

/-!
# Outlines as lists of contours

An outline keeps its points in one array and says where each contour ends. `Outline.Holds` is what
this stands for: the contours, none of them empty, and the points of one that has not been ended.
Pushing points and ending contours build it up (`Holds.push`, `Holds.endContour`), and the recorded
ends cut the array back into just these contours, so that the outline is traced contour by contour
(`Holds.trace`).
-/

namespace Lettering

/-- Trace contours one after another. The first has number `n`, and its first point index `start`. -/
def traceContours (n start : Nat) : List (List TaggedPoint) → Tracing
  | [] => .empty
  | c :: rest =>
    match readContour c with
    | .complete path => .prepend path (traceContours (n + 1) (start + c.length) rest)
    | .leftOut fault => .note (.leftOut fault n) (traceContours (n + 1) (start + c.length) rest)
    | .cut path i => ⟨path ++ [.close], [.unexpectedTag n (start + i)]⟩

/-- Contours that can all be read are drawn one after the other, without a defect. -/
theorem traceContours_of_complete {α : Type} (points : α → List TaggedPoint)
    (path : α → List PathCommand) (h : ∀ a, readContour (points a) = .complete (path a))
    (n start : Nat) (as : List α) :
    traceContours n start (as.map points) = ⟨as.flatMap path, []⟩ := by
  induction as generalizing n start with
  | nil => rfl
  | cons a rest ih => simp [traceContours, h, ih, Tracing.prepend]

namespace Outline

/-- Where contours end that follow one another from the index `start`. -/
def endsFrom (start : Nat) : List (List TaggedPoint) → List Nat
  | [] => []
  | c :: rest => (start + c.length - 1) :: endsFrom (start + c.length) rest

theorem endsFrom_append (start : Nat) (xs ys : List (List TaggedPoint)) :
    endsFrom start (xs ++ ys) = endsFrom start xs ++ endsFrom (start + xs.flatten.length) ys := by
  induction xs generalizing start with
  | nil => rfl
  | cons c rest ih => simp [endsFrom, ih, Nat.add_assoc]

/-- The outline holds some contours, and the points of one more that is not ended. -/
structure Holds (o : Outline) (contours : List (List TaggedPoint)) (rest : List TaggedPoint) :
    Prop where
  points : o.points.toList = contours.flatten ++ rest
  ends : o.ends.toList = endsFrom 0 contours
  nonempty : ∀ c ∈ contours, c ≠ []

theorem holds_empty : ({} : Outline).Holds [] [] := ⟨rfl, rfl, by simp⟩

variable {o : Outline} {contours : List (List TaggedPoint)} {rest : List TaggedPoint}

theorem Holds.push (h : o.Holds contours rest) (p : Point) (k : PointKind) :
    (o.push p k).Holds contours (rest ++ [⟨p, k⟩]) := by
  refine ⟨?_, h.ends, h.nonempty⟩
  simp [Outline.push, h.points]

/-- The contour that is not ended begins behind those that are. -/
theorem Holds.openStart_eq (h : o.Holds contours rest) : o.openStart = contours.flatten.length := by
  unfold openStart
  rw [← Array.getLast?_toList, h.ends]
  rcases List.eq_nil_or_concat contours with rfl | ⟨before, c, rfl⟩
  · rfl
  · have hc : c.length ≠ 0 := by simpa using h.nonempty c (by simp)
    rw [List.concat_eq_append, endsFrom_append]
    simp [endsFrom]
    omega

theorem Holds.size_eq (h : o.Holds contours rest) :
    o.points.size = contours.flatten.length + rest.length := by
  rw [← Array.length_toList, h.points, List.length_append]

/-- Ending a contour twice leaves no trace. -/
theorem Holds.endContour_of_nil (h : o.Holds contours []) : o.endContour = o := by
  unfold endContour
  rw [if_neg]
  simp [h.openStart_eq, h.size_eq]

theorem Holds.endContour (h : o.Holds contours rest) (hne : rest ≠ []) :
    o.endContour.Holds (contours ++ [rest]) [] := by
  have hpos : 0 < rest.length := List.length_pos_iff.2 hne
  unfold Outline.endContour
  rw [if_pos (by rw [h.openStart_eq, h.size_eq]; omega)]
  refine ⟨by simp [h.points], ?_, ?_⟩
  · simp [h.ends, endsFrom_append, endsFrom, h.size_eq]
  · intro c hc
    rcases List.mem_append.1 hc with hc | hc
    · exact h.nonempty c hc
    · rwa [List.mem_singleton.1 hc]

/-- The points between two others are a slice. -/
theorem slice_eq {before c after : List TaggedPoint} (h : o.points.toList = before ++ c ++ after)
    (hne : c ≠ []) : o.slice before.length (before.length + c.length - 1) = c := by
  have hpos : 0 < c.length := List.length_pos_iff.2 hne
  have hstop : before.length + c.length - 1 + 1 - before.length = c.length := by omega
  rw [slice, Array.toList_extract, h, List.extract_eq_take_drop, hstop]
  simp

/-- A range in bounds has points. -/
theorem slice_ne_nil {first last : Nat} (h : first ≤ last ∧ last < o.points.size) :
    o.slice first last ≠ [] := by
  rw [slice, ← List.length_pos_iff, Array.length_toList, Array.size_extract]
  omega

/-- Ranges that are cut from the ends of some contours are traced as the contours are. -/
theorem traceRanges_endsFrom (n : Nat) {before after : List TaggedPoint}
    (h : o.points.toList = before ++ contours.flatten ++ after) (hne : ∀ c ∈ contours, c ≠ []) :
    o.traceRanges n (rangesFrom before.length (endsFrom before.length contours)) =
      traceContours n before.length contours := by
  induction contours generalizing n before with
  | nil => rfl
  | cons c more ih =>
    have hc := hne c List.mem_cons_self
    have hpos : 0 < c.length := List.length_pos_iff.2 hc
    have hpoints : o.points.toList = before ++ c ++ (more.flatten ++ after) := by simpa using h
    have hnext : before.length + c.length - 1 + 1 = (before ++ c).length := by
      rw [List.length_append]
      omega
    have hin : before.length ≤ before.length + c.length - 1 ∧
        before.length + c.length - 1 < o.points.size := by
      rw [← Array.length_toList, hpoints]
      simp only [List.length_append]
      omega
    have hbehind : o.points.toList = (before ++ c) ++ more.flatten ++ after := by simpa using h
    have hmore := fun m => ih m hbehind fun d hd => hne d (List.mem_cons_of_mem c hd)
    rw [List.length_append] at hnext hmore
    rw [endsFrom, rangesFrom, traceRanges, traceContours, if_pos hin, slice_eq hpoints hc, hnext]
    cases readContour c with
    | complete path => exact congrArg (Tracing.prepend path) (hmore (n + 1))
    | leftOut fault => exact congrArg (Tracing.note (.leftOut fault n)) (hmore (n + 1))
    | cut path i => rfl

/-- **An outline is traced contour by contour.** Points that belong to no contour yet are not looked
at. -/
theorem Holds.trace_eq (h : o.Holds contours rest) : o.trace = traceContours 0 0 contours := by
  have hpoints : o.points.toList = [] ++ contours.flatten ++ rest := h.points
  rw [trace, contourRanges, h.ends]
  exact traceRanges_endsFrom 0 hpoints h.nonempty

end Outline

end Lettering
