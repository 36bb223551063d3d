import Lettering.Proofs.Outline.Contained
import Mathlib.Data.List.DropRight

/-!
# Outlines built call by call

An outline is built from the empty one by pushing points and ending contours, in any order. The
calls that end contours cut the pushed points into groups (`OutlineCall.groups`), the last of which
has not been ended.

What the outline holds is followed through the calls: each group that is ended and has points is a
contour, and the last group is open (`Outline.holds_build`). The recorded ends then cut the points
into just these contours, so that their ranges follow one another without a gap, and none of them
stops the tracing (`Outline.build_groups`).
-/

namespace Lettering

/-- One call of a builder of outlines. -/
inductive OutlineCall
  | push (point : Point) (kind : PointKind)
  | endContour

namespace OutlineCall

/-- The point that a call pushes. -/
def point? : OutlineCall → Option TaggedPoint
  | push p k => some ⟨p, k⟩
  | endContour => none

/-- Whether a call ends a contour. -/
def isEnd : OutlineCall → Bool
  | push .. => false
  | endContour => true

/-- The points that calls push. -/
def pushed (calls : List OutlineCall) : List TaggedPoint := calls.filterMap point?

/-- The points pushed before the first end, between one end and the next, and behind the last. -/
def groups (calls : List OutlineCall) : List (List TaggedPoint) :=
  (calls.splitOnP isEnd).map pushed

/-- The groups that are ended and have points. -/
def endedGroups (calls : List OutlineCall) : List (List TaggedPoint) :=
  (groups calls).dropLast.filter (!·.isEmpty)

/-- The calls up to the last that ends a contour. -/
def upToLastEnd (calls : List OutlineCall) : List OutlineCall :=
  calls.rdropWhile (!·.isEnd)

/-! ## Groups -/

theorem groups_push (p : Point) (k : PointKind) (calls : List OutlineCall) :
    groups (push p k :: calls) = (groups calls).modifyHead (⟨p, k⟩ :: ·) := by
  rw [groups, List.splitOnP_cons_eq_if_modifyHead, groups]
  cases calls.splitOnP isEnd <;> rfl

theorem groups_endContour (calls : List OutlineCall) :
    groups (endContour :: calls) = [] :: groups calls := by
  rw [groups, List.splitOnP_cons_eq_if_modifyHead]
  rfl

theorem groups_ne_nil (calls : List OutlineCall) : groups calls ≠ [] := by
  simp [groups, List.splitOnP_ne_nil]

/-- The groups are what is pushed, in pieces. -/
theorem flatten_groups (calls : List OutlineCall) : (groups calls).flatten = pushed calls := by
  induction calls with
  | nil => rfl
  | cons c rest ih =>
    cases c with
    | push p k =>
      obtain ⟨g, gs, hgroups⟩ := List.exists_cons_of_ne_nil (groups_ne_nil rest)
      rw [hgroups, List.flatten_cons] at ih
      rw [groups_push, hgroups, List.modifyHead_cons, List.flatten_cons, List.cons_append, ih]
      rfl
    | endContour =>
      rw [groups_endContour, List.flatten_cons, List.nil_append, ih]
      rfl

/-- A last push does not touch the groups that are ended. -/
theorem dropLast_groups_concat (calls : List OutlineCall) (p : Point) (k : PointKind) :
    (groups (calls ++ [push p k])).dropLast = (groups calls).dropLast := by
  have hmodify : ∀ (q : TaggedPoint) (gs : List (List TaggedPoint)),
      (gs.modifyHead (q :: ·)).dropLast = gs.dropLast.modifyHead (q :: ·)
    | _, [] | _, [_] | _, _ :: _ :: _ => rfl
  induction calls with
  | nil => rfl
  | cons c rest ih =>
    rw [List.cons_append]
    cases c with
    | push q l => rw [groups_push, groups_push, hmodify, hmodify, ih]
    | endContour =>
      rw [groups_endContour, groups_endContour, List.dropLast_cons_of_ne_nil (groups_ne_nil _),
        List.dropLast_cons_of_ne_nil (groups_ne_nil _), ih]

/-- The groups that are ended are what is pushed up to the last end. -/
theorem flatten_endedGroups (calls : List OutlineCall) :
    (endedGroups calls).flatten = pushed (upToLastEnd calls) := by
  rw [endedGroups, List.flatten_filter_not_isEmpty, upToLastEnd]
  induction calls using List.reverseRecOn with
  | nil => rfl
  | append_singleton calls c ih =>
    cases c with
    | push p k => rw [dropLast_groups_concat, ih, List.rdropWhile_concat_pos _ _ _ rfl]
    | endContour =>
      rw [List.rdropWhile_concat_neg _ _ _ (by simp [isEnd]), groups,
        List.splitOnP_append_cons _ _ rfl, List.splitOnP_nil, List.map_append, List.map_singleton,
        List.dropLast_concat, ← groups, flatten_groups, pushed, pushed, List.filterMap_append]
      simp [point?]

end OutlineCall

namespace Outline

/-! ## Ranges of contours -/

variable {o : Outline} {contours : List (List TaggedPoint)} {rest : List TaggedPoint}

/-- Contours that begin at an index have ends behind it, each behind the one before. -/
theorem pairwise_endsFrom (start : ℕ) (hne : ∀ c ∈ contours, c ≠ []) :
    (endsFrom start contours).Pairwise (· < ·) ∧ ∀ e ∈ endsFrom start contours, start ≤ e := by
  induction contours generalizing start with
  | nil => exact ⟨.nil, by simp [endsFrom]⟩
  | cons c more ih =>
    have hpos : 0 < c.length := List.length_pos_iff.2 (hne c List.mem_cons_self)
    obtain ⟨hmore, hle⟩ := ih (start + c.length) fun d hd => hne d (List.mem_cons_of_mem c hd)
    refine ⟨List.pairwise_cons.2 ⟨fun e he => ?_, hmore⟩, fun e he => ?_⟩
    · have := hle e he
      omega
    · rcases List.mem_cons.1 he with rfl | he
      · omega
      · have := hle e he
        omega

/-- The range of a contour begins where the last one ended and is as long as the contour. -/
theorem rangesFrom_endsFrom_cons (start : ℕ) {c : List TaggedPoint} (hc : c ≠ [])
    (more : List (List TaggedPoint)) :
    rangesFrom start (endsFrom start (c :: more)) = (start, start + c.length - 1) ::
      rangesFrom (start + c.length) (endsFrom (start + c.length) more) := by
  have hpos : 0 < c.length := List.length_pos_iff.2 hc
  have hnext : start + c.length - 1 + 1 = start + c.length := by omega
  rw [endsFrom, rangesFrom, hnext]

/-- The ranges of contours go through the indices of their points one after the other. -/
theorem flatMap_rangesFrom_endsFrom (start : ℕ) (hne : ∀ c ∈ contours, c ≠ []) :
    ((rangesFrom start (endsFrom start contours)).flatMap fun r =>
      List.range' r.1 (r.2 + 1 - r.1)) = List.range' start contours.flatten.length := by
  induction contours generalizing start with
  | nil => rfl
  | cons c more ih =>
    have hc := hne c List.mem_cons_self
    have hpos : 0 < c.length := List.length_pos_iff.2 hc
    have hlength : start + c.length - 1 + 1 - start = c.length := by omega
    have hmore := ih (start + c.length) fun d hd => hne d (List.mem_cons_of_mem c hd)
    rw [rangesFrom_endsFrom_cons start hc, List.flatMap_cons, hlength, hmore, List.flatten_cons,
      List.length_append, List.range'_append_1]

/-- They have points, and do not leave the points of the contours. -/
theorem rangesFrom_endsFrom_valid (start : ℕ) (hne : ∀ c ∈ contours, c ≠ []) :
    ∀ r ∈ rangesFrom start (endsFrom start contours),
      r.1 ≤ r.2 ∧ r.2 < start + contours.flatten.length := by
  induction contours generalizing start with
  | nil => simp [endsFrom, rangesFrom]
  | cons c more ih =>
    have hc := hne c List.mem_cons_self
    have hpos : 0 < c.length := List.length_pos_iff.2 hc
    have hmore := ih (start + c.length) fun d hd => hne d (List.mem_cons_of_mem c hd)
    rw [rangesFrom_endsFrom_cons start hc, List.flatten_cons, List.length_append]
    refine List.forall_mem_cons.2 ⟨⟨by omega, by omega⟩, fun r hr => ?_⟩
    have := hmore r hr
    exact ⟨this.1, by omega⟩

/-- The contours that an outline holds have valid ranges. -/
theorem Holds.rangesValid (h : o.Holds contours rest) : o.RangesValid := by
  intro r hr
  rw [contourRanges, h.ends] at hr
  have := rangesFrom_endsFrom_valid 0 h.nonempty r hr
  rw [h.size_eq]
  exact ⟨this.1, by omega⟩

/-- Ending a contour again changes nothing. -/
theorem endContour_endContour (o : Outline) : o.endContour.endContour = o.endContour := by
  by_cases hopen : o.openStart < o.points.size
  · have hended : o.endContour = { o with ends := o.ends.push (o.points.size - 1) } := if_pos hopen
    have hsize : o.endContour.points.size = o.points.size := by rw [hended]
    have hstart : o.endContour.openStart = o.points.size - 1 + 1 := by
      rw [hended, openStart]
      simp
    exact if_neg (by omega)
  · have hended : o.endContour = o := if_neg hopen
    rw [hended, hended]

/-! ## What calls build -/

/-- The outline after a call. -/
def call (o : Outline) : OutlineCall → Outline
  | .push p k => o.push p k
  | .endContour => o.endContour

/-- The outline that calls build from the empty one. -/
def build (calls : List OutlineCall) : Outline := calls.foldl call .empty

/-- What an outline holds after some calls: the contours it held, and the groups of the calls, the
first of which goes on with the points that were open. -/
theorem Holds.foldl_call (calls : List OutlineCall) (h : o.Holds contours rest) :
    ∃ last, (calls.foldl call o).Holds
      (contours ++ (((OutlineCall.groups calls).modifyHead (rest ++ ·)).dropLast.filter
        (!·.isEmpty))) last := by
  induction calls generalizing o contours rest with
  | nil => exact ⟨rest, by simpa [OutlineCall.groups, OutlineCall.pushed] using h⟩
  | cons c calls ih =>
    obtain ⟨g, gs, hgroups⟩ := List.exists_cons_of_ne_nil (OutlineCall.groups_ne_nil calls)
    cases c with
    | push p k =>
      obtain ⟨last, hlast⟩ := ih (h.push p k)
      refine ⟨last, ?_⟩
      rw [OutlineCall.groups_push, List.foldl_cons, call]
      simpa [hgroups] using hlast
    | endContour =>
      rw [OutlineCall.groups_endContour, List.foldl_cons, call]
      cases rest with
      | nil =>
        obtain ⟨last, hlast⟩ := ih (o := o.endContour) (by rwa [h.endContour_of_nil])
        exact ⟨last, by simpa [hgroups] using hlast⟩
      | cons p more =>
        obtain ⟨last, hlast⟩ := ih (h.endContour (List.cons_ne_nil p more))
        exact ⟨last, by simpa [hgroups] using hlast⟩

/-- A built outline holds the groups that are ended and have points. -/
theorem holds_build (calls : List OutlineCall) :
    ∃ last, (build calls).Holds (OutlineCall.endedGroups calls) last := by
  obtain ⟨last, hlast⟩ := holds_empty.foldl_call calls
  refine ⟨last, ?_⟩
  obtain ⟨g, gs, hgroups⟩ := List.exists_cons_of_ne_nil (OutlineCall.groups_ne_nil calls)
  rw [build, empty]
  simpa [hgroups, OutlineCall.endedGroups] using hlast

/-- Nothing that is pushed is lost or moved. -/
theorem points_build (calls : List OutlineCall) :
    (build calls).points.toList = OutlineCall.pushed calls := by
  have hpoints : ∀ o : Outline, (calls.foldl call o).points.toList =
      o.points.toList ++ OutlineCall.pushed calls := by
    induction calls with
    | nil => intro o; simp [OutlineCall.pushed]
    | cons c rest ih =>
      intro o
      rw [List.foldl_cons, ih]
      cases c with
      | push p k => simp [call, Outline.push, OutlineCall.pushed, OutlineCall.point?]
      | endContour =>
        have hsame : o.endContour.points = o.points := by
          unfold endContour
          split <;> rfl
        rw [call, hsame]
        rfl
  exact hpoints .empty

/-- **A built outline is cut into the groups that it was built from.** All pushed points are there,
each with its kind. The ends increase, and the ranges of the contours have points and go through the
indices of all points pushed up to the last end, one contour after the other. The contours are the
groups that are ended and have points. Ending a contour once more changes nothing, and tracing never
meets a range that stops it. -/
theorem build_groups (calls : List OutlineCall) :
    (build calls).points.toList = OutlineCall.pushed calls ∧
    (build calls).ends.toList.Pairwise (· < ·) ∧
    (build calls).RangesValid ∧
    ((build calls).contourRanges.flatMap fun r => List.range' r.1 (r.2 + 1 - r.1)) =
      List.range (OutlineCall.pushed (OutlineCall.upToLastEnd calls)).length ∧
    (build calls).contours = OutlineCall.endedGroups calls ∧
    (build calls).contours.flatten = OutlineCall.pushed (OutlineCall.upToLastEnd calls) ∧
    (∀ more, build (calls ++ .endContour :: .endContour :: more) =
      build (calls ++ .endContour :: more)) ∧
    (build calls).trace = traceContours 0 0 (OutlineCall.endedGroups calls) := by
  obtain ⟨last, hholds⟩ := holds_build calls
  refine ⟨points_build calls, ?_, hholds.rangesValid, ?_, hholds.contours_eq, ?_, fun more => ?_,
    hholds.trace_eq⟩
  · rw [hholds.ends]
    exact (pairwise_endsFrom 0 hholds.nonempty).1
  · rw [contourRanges, hholds.ends, flatMap_rangesFrom_endsFrom 0 hholds.nonempty,
      OutlineCall.flatten_endedGroups, List.range_eq_range']
  · rw [hholds.contours_eq, OutlineCall.flatten_endedGroups]
  · simp only [build, List.foldl_append, List.foldl_cons, call, endContour_endContour]

end Outline

end Lettering
