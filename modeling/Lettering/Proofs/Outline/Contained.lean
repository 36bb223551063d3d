import Lettering.Proofs.Outline.Contours
import Lettering.Proofs.Outline.Faults

/-!
# Defects that stay in their contours

What a contour adds to the tracing of an outline depends on its own points. Tracing goes through the
contours up to the first that is cut (`Outline.Meets`) and puts together what these contribute
(`Outline.traceRanges_eq`); what is behind a cut does not matter (`Outline.traceRanges_congr`).

A contour that is left out can be taken out of the outline altogether (`Outline.eraseContour`,
`Outline.Holds.eraseContour`), and nothing else is then drawn. The results are put together in
`Outline.trace_contained`.
-/

namespace Lettering

/-! ## Cut tracings -/

/-- Tracing came upon a point that is out of place. -/
def Tracing.IsCut (t : Tracing) : Prop :=
  ∃ contour point, .unexpectedTag contour point ∈ t.defects

theorem isCut_contribution_iff (n first : ℕ) (points : List TaggedPoint) :
    (contribution n first points).IsCut ↔ ∃ path i, readContour points = .cut path i := by
  unfold contribution
  cases readContour points <;> simp [Tracing.IsCut]

namespace Outline

/-- The range of every contour has points, and all of them exist. -/
def RangesValid (o : Outline) : Prop :=
  ∀ r ∈ o.contourRanges, r.1 ≤ r.2 ∧ r.2 < o.points.size

instance (o : Outline) : Decidable o.RangesValid :=
  inferInstanceAs (Decidable (∀ r ∈ o.contourRanges, _))

/-- The points of every contour. -/
def contours (o : Outline) : List (List TaggedPoint) :=
  o.contourRanges.map fun r => o.slice r.1 r.2

/-- What a contour adds, by its range and its number. -/
def contributionAt (o : Outline) (c : (ℕ × ℕ) × ℕ) : Tracing :=
  contribution c.2 c.1.1 (o.slice c.1.1 c.1.2)

/-- Of some contours, those that are met: all, or those up to and including the first that is cut.
The `later` ones are not met. -/
structure Meets (o : Outline) (contours met later : List ((ℕ × ℕ) × ℕ)) : Prop where
  split : contours = met ++ later
  uncut : ∀ c ∈ met.dropLast, ¬ (o.contributionAt c).IsCut
  cut : later ≠ [] → ∃ c ∈ met.getLast?, (o.contributionAt c).IsCut

variable {o : Outline}

theorem Meets.cons {contours met later : List ((ℕ × ℕ) × ℕ)} {c : (ℕ × ℕ) × ℕ}
    (hc : ¬ (o.contributionAt c).IsCut) (h : o.Meets contours met later) :
    o.Meets (c :: contours) (c :: met) later := by
  refine ⟨congrArg (c :: ·) h.split, fun d hd => ?_, fun hlater => ?_⟩
  · cases met with
    | nil => simp at hd
    | cons e met =>
      rcases List.mem_cons.1 hd with rfl | hd
      · exact hc
      · exact h.uncut d hd
  · obtain ⟨d, hd, hcut⟩ := h.cut hlater
    refine ⟨d, ?_, hcut⟩
    cases met with
    | nil => simp at hd
    | cons e met => simpa using hd

/-! ## Contour after contour -/

variable {first last : ℕ} (n : ℕ)

/-- Tracing ends with a contour that is cut. -/
theorem traceRanges_cons_of_cut (h : first ≤ last ∧ last < o.points.size)
    (hcut : (o.contributionAt ((first, last), n)).IsCut) (rest : List (ℕ × ℕ)) :
    o.traceRanges n ((first, last) :: rest) = o.contributionAt ((first, last), n) := by
  obtain ⟨path, i, hread⟩ := (isCut_contribution_iff ..).1 hcut
  simp only [traceRanges, if_pos h, contributionAt, contribution, hread]

/-- And goes on behind any other. -/
theorem traceRanges_cons_of_not_cut (h : first ≤ last ∧ last < o.points.size)
    (hcut : ¬ (o.contributionAt ((first, last), n)).IsCut) (rest : List (ℕ × ℕ)) :
    o.traceRanges n ((first, last) :: rest) =
      ⟨(o.contributionAt ((first, last), n)).path ++ (o.traceRanges (n + 1) rest).path,
        (o.contributionAt ((first, last), n)).defects ++ (o.traceRanges (n + 1) rest).defects⟩ := by
  rw [contributionAt, isCut_contribution_iff] at hcut
  rw [traceRanges, if_pos h, contributionAt, contribution]
  cases hread : readContour (o.slice first last) with
  | complete path => rfl
  | leftOut fault => rfl
  | cut path i => exact absurd ⟨path, i, hread⟩ hcut

/-- A tracing is put together from what the contours contribute that are met. -/
theorem traceRanges_eq {ranges : List (ℕ × ℕ)}
    (h : ∀ r ∈ ranges, r.1 ≤ r.2 ∧ r.2 < o.points.size) :
    ∃ met later, o.Meets (ranges.zipIdx n) met later ∧
      o.traceRanges n ranges = ⟨met.flatMap fun c => (o.contributionAt c).path,
        met.flatMap fun c => (o.contributionAt c).defects⟩ := by
  induction ranges generalizing n with
  | nil => exact ⟨[], [], ⟨rfl, by simp, by simp⟩, rfl⟩
  | cons r rest ih =>
    have hr := h r List.mem_cons_self
    by_cases hcut : (o.contributionAt (r, n)).IsCut
    · refine ⟨[(r, n)], rest.zipIdx (n + 1), ⟨rfl, by simp, fun _ => ⟨_, rfl, hcut⟩⟩, ?_⟩
      rw [traceRanges_cons_of_cut n hr hcut]
      simp
    · obtain ⟨met, later, hmeets, htrace⟩ := ih (n + 1) fun r hr => h r (List.mem_cons_of_mem _ hr)
      refine ⟨(r, n) :: met, later, hmeets.cons hcut, ?_⟩
      rw [traceRanges_cons_of_not_cut n hr hcut, htrace]
      rfl

/-- Points that are in one outline are in any other in which they are the same. -/
theorem lt_size_of_slice_eq {o' : Outline} (h : first ≤ last ∧ last < o.points.size)
    (hslice : o'.slice first last = o.slice first last) :
    first ≤ last ∧ last < o'.points.size := by
  have hlength := congrArg List.length hslice
  simp only [slice, Array.length_toList, Array.size_extract] at hlength
  omega

/-- Outlines that agree up to a contour that is cut are traced alike. -/
theorem traceRanges_congr {o' : Outline} {ranges : List (ℕ × ℕ)}
    (h : ∀ r ∈ ranges, r.1 ≤ r.2 ∧ r.2 < o.points.size)
    (hslice : ∀ r ∈ ranges, o'.slice r.1 r.2 = o.slice r.1 r.2)
    (hcut : ∃ r ∈ ranges, ∃ path i, readContour (o.slice r.1 r.2) = .cut path i)
    (more more' : List (ℕ × ℕ)) :
    o'.traceRanges n (ranges ++ more') = o.traceRanges n (ranges ++ more) := by
  induction ranges generalizing n with
  | nil => simp at hcut
  | cons r rest ih =>
    have hr := h r List.mem_cons_self
    have hsame := hslice r List.mem_cons_self
    have hr' := lt_size_of_slice_eq hr hsame
    have hpart : o'.contributionAt (r, n) = o.contributionAt (r, n) := by
      rw [contributionAt, contributionAt, hsame]
    rw [List.cons_append, List.cons_append]
    by_cases hhere : (o.contributionAt (r, n)).IsCut
    · rw [traceRanges_cons_of_cut n hr hhere, traceRanges_cons_of_cut n hr' (hpart ▸ hhere), hpart]
    · have hrest : ∃ r ∈ rest, ∃ path i, readContour (o.slice r.1 r.2) = .cut path i := by
        obtain ⟨d, hd, hread⟩ := hcut
        rcases List.mem_cons.1 hd with rfl | hd
        · exact absurd ((isCut_contribution_iff ..).2 hread) hhere
        · exact ⟨d, hd, hread⟩
      have hmore := ih (n + 1) (fun r hr => h r (List.mem_cons_of_mem _ hr))
        (fun r hr => hslice r (List.mem_cons_of_mem _ hr)) hrest
      rw [traceRanges_cons_of_not_cut n hr hhere, traceRanges_cons_of_not_cut n hr' (hpart ▸ hhere),
        hpart, hmore]

/-- Only the last defect can be a point out of place. -/
theorem mem_dropLast_defects_traceRanges (ranges : List (ℕ × ℕ)) :
    ∀ d ∈ (o.traceRanges n ranges).defects.dropLast, ∃ fault k, d = .leftOut fault k := by
  induction ranges generalizing n with
  | nil => simp [traceRanges, Tracing.empty]
  | cons r rest ih =>
    rw [traceRanges]
    split
    · cases readContour (o.slice r.1 r.2) with
      | complete path => exact ih (n + 1)
      | leftOut fault =>
        intro d hd
        simp only [Tracing.note] at hd
        cases hdefects : (o.traceRanges (n + 1) rest).defects with
        | nil => simp [hdefects] at hd
        | cons e more =>
          rw [hdefects, List.dropLast_cons_cons] at hd
          rcases List.mem_cons.1 hd with rfl | hd
          · exact ⟨fault, n, rfl⟩
          · exact ih (n + 1) d (by rwa [hdefects])
      | cut path i => simp
    · simp [Tracing.empty]

/-! ## The contours of an outline -/

/-- Valid ranges cut the points from where they begin into contours. -/
theorem exists_drop_eq (start : ℕ) {ends : List ℕ}
    (h : ∀ r ∈ rangesFrom start ends, r.1 ≤ r.2 ∧ r.2 < o.points.size) :
    let contours := (rangesFrom start ends).map fun r => o.slice r.1 r.2
    (∃ rest, o.points.toList.drop start = contours.flatten ++ rest) ∧
      endsFrom start contours = ends ∧ ∀ c ∈ contours, c ≠ [] := by
  induction ends generalizing start with
  | nil => exact ⟨⟨_, rfl⟩, rfl, by simp [rangesFrom]⟩
  | cons last ends ih =>
    have hhere := h (start, last) List.mem_cons_self
    obtain ⟨⟨rest, hrest⟩, hends, hne⟩ := ih (last + 1) fun r hr => h r (List.mem_cons_of_mem _ hr)
    have hnext : start + (last + 1 - start) = last + 1 := by omega
    have hcut :
        o.slice start last ++ o.points.toList.drop (last + 1) = o.points.toList.drop start := by
      have hwhole := List.take_append_drop (last + 1 - start) (o.points.toList.drop start)
      rwa [List.drop_drop, hnext, ← List.extract_eq_take_drop, ← Array.toList_extract] at hwhole
    have hlength : (o.slice start last).length = last + 1 - start := by
      rw [slice, Array.length_toList, Array.size_extract]
      omega
    refine ⟨⟨rest, ?_⟩, ?_, ?_⟩
    · rw [rangesFrom, List.map_cons, List.flatten_cons, List.append_assoc, ← hrest, hcut]
    · rw [rangesFrom, List.map_cons, endsFrom, hlength, hnext, hends]
      rfl
    · intro c hc
      rcases List.mem_cons.1 hc with rfl | hc
      · exact slice_ne_nil hhere
      · exact hne c hc

/-- An outline with valid ranges holds the contours that these cut out of it. -/
theorem RangesValid.exists_holds (h : o.RangesValid) : ∃ rest, o.Holds o.contours rest := by
  obtain ⟨⟨rest, hrest⟩, hends, hne⟩ := exists_drop_eq 0 h
  exact ⟨rest, hrest, hends.symm, hne⟩

/-- The ends of some contours cut them out again. -/
theorem map_slice_endsFrom {before after : List TaggedPoint} {contours : List (List TaggedPoint)}
    (h : o.points.toList = before ++ contours.flatten ++ after) (hne : ∀ c ∈ contours, c ≠ []) :
    ((rangesFrom before.length (endsFrom before.length contours)).map fun r => o.slice r.1 r.2) =
      contours := by
  induction contours generalizing before with
  | nil => rfl
  | cons c more ih =>
    have hc := hne c List.mem_cons_self
    have hpos : 0 < c.length := List.length_pos_iff.2 hc
    have hpoints : o.points.toList = before ++ c ++ (more.flatten ++ after) := by simpa using h
    have hnext : before.length + c.length - 1 + 1 = before.length + c.length := by omega
    have hmore := @ih (before ++ c) (by simpa using h)
      fun d hd => hne d (List.mem_cons_of_mem c hd)
    rw [List.length_append] at hmore
    rw [endsFrom, rangesFrom, List.map_cons, slice_eq hpoints hc, hnext, hmore]

/-- What an outline holds are its contours. -/
theorem Holds.contours_eq {contours : List (List TaggedPoint)} {rest : List TaggedPoint}
    (h : o.Holds contours rest) : o.contours = contours := by
  have hpoints : o.points.toList = [] ++ contours.flatten ++ rest := h.points
  rw [Outline.contours, contourRanges, h.ends]
  exact map_slice_endsFrom hpoints h.nonempty

/-! ## Taking a contour out -/

/-- The outline without the contour of a number. -/
def eraseContour (o : Outline) (k : ℕ) : Outline :=
  match o.contourRanges[k]? with
  | none => o
  | some (first, last) =>
    { points := o.points.extract 0 first ++ o.points.extract (last + 1)
      ends := (o.ends.toList.take k ++
        (o.ends.toList.drop (k + 1)).map (· - (last + 1 - first))).toArray }

theorem length_endsFrom (start : ℕ) (contours : List (List TaggedPoint)) :
    (endsFrom start contours).length = contours.length := by
  induction contours generalizing start with
  | nil => rfl
  | cons c rest ih => simp [endsFrom, ih]

/-- Contours that begin `d` points later end so much later. -/
theorem endsFrom_add (start d : ℕ) {contours : List (List TaggedPoint)}
    (hne : ∀ c ∈ contours, c ≠ []) :
    (endsFrom (start + d) contours).map (· - d) = endsFrom start contours := by
  induction contours generalizing start with
  | nil => rfl
  | cons c rest ih =>
    have hpos : 0 < c.length := List.length_pos_iff.2 (hne c List.mem_cons_self)
    have hrest := ih (start + c.length) fun e he => hne e (List.mem_cons_of_mem c he)
    rw [Nat.add_right_comm] at hrest
    rw [endsFrom, List.map_cons, hrest, endsFrom]
    congr 1
    omega

/-- The range of the contour behind some others. -/
theorem rangesFrom_endsFrom_getElem? (start : ℕ) {before : List (List TaggedPoint)}
    (hne : ∀ c ∈ before, c ≠ []) (c : List TaggedPoint) (after : List (List TaggedPoint)) :
    (rangesFrom start (endsFrom start (before ++ c :: after)))[before.length]? =
      some (start + before.flatten.length, start + before.flatten.length + c.length - 1) := by
  induction before generalizing start with
  | nil => rfl
  | cons b before ih =>
    have hpos : 0 < b.length := List.length_pos_iff.2 (hne b List.mem_cons_self)
    have hnext : start + b.length - 1 + 1 = start + b.length := by omega
    have hrest := ih (start + b.length) fun e he => hne e (List.mem_cons_of_mem b he)
    rw [List.cons_append, endsFrom, rangesFrom, hnext, List.length_cons, List.getElem?_cons_succ,
      hrest, List.flatten_cons, List.length_append, Nat.add_assoc]

/-- Elements are taken out of an array by putting together what is before and behind them. -/
theorem toList_extract_append_extract {α : Type} {xs : Array α} {front middle back : List α}
    (h : xs.toList = front ++ middle ++ back) :
    (xs.extract 0 front.length ++ xs.extract (front ++ middle).length).toList = front ++ back := by
  have hfront : (xs.extract 0 front.length).toList = front := by
    rw [Array.toList_extract, h, List.append_assoc]
    simp
  have hsize : xs.size = (front ++ middle).length + back.length := by
    rw [← Array.length_toList, h, List.length_append]
  have hback : (xs.extract (front ++ middle).length).toList = back := by
    rw [Array.toList_extract, List.extract_eq_take_drop, h, List.drop_left, hsize,
      Nat.add_sub_cancel_left, List.take_length]
  rw [Array.toList_append, hfront, hback]

variable {before after : List (List TaggedPoint)} {c rest : List TaggedPoint}

/-- Taking out a contour leaves the others. -/
theorem Holds.eraseContour (h : o.Holds (before ++ c :: after) rest) :
    (o.eraseContour before.length).Holds (before ++ after) rest := by
  have hbefore : ∀ e ∈ before, e ≠ [] := fun e he => h.nonempty e (List.mem_append_left _ he)
  have hafter : ∀ e ∈ after, e ≠ [] := fun e he =>
    h.nonempty e (List.mem_append_right _ (List.mem_cons_of_mem c he))
  have hpos : 0 < c.length := List.length_pos_iff.2 (h.nonempty c (by simp))
  have hrange : o.contourRanges[before.length]? =
      some (before.flatten.length, before.flatten.length + c.length - 1) := by
    rw [contourRanges, h.ends, rangesFrom_endsFrom_getElem? 0 hbefore, Nat.zero_add]
  have hnext : before.flatten.length + c.length - 1 + 1 = (before.flatten ++ c).length := by
    rw [List.length_append]
    omega
  have hlength : (before.flatten ++ c).length - before.flatten.length = c.length := by
    rw [List.length_append, Nat.add_sub_cancel_left]
  have hpoints : o.points.toList = before.flatten ++ c ++ (after.flatten ++ rest) := by
    simp [h.points]
  have hends : o.ends.toList = endsFrom 0 before ++
      (before.flatten.length + c.length - 1) ::
        endsFrom (before.flatten.length + c.length) after := by
    rw [h.ends, endsFrom_append, endsFrom, Nat.zero_add]
  simp only [Outline.eraseContour, hrange, hnext, hlength]
  refine ⟨?_, ?_, fun e he => (List.mem_append.1 he).elim (hbefore e) (hafter e)⟩
  · rw [toList_extract_append_extract hpoints, List.flatten_append, List.append_assoc]
  · have hcount := length_endsFrom 0 before
    rw [List.toList_toArray, hends, List.take_left' hcount, ← List.drop_drop,
      List.drop_left' hcount, List.drop_one, List.tail_cons, endsFrom_add _ _ hafter,
      endsFrom_append, Nat.zero_add]

end Outline

/-! ## Contours that draw nothing -/

/-- The path does not depend on how contours and points are counted. -/
theorem path_traceContours_congr (n n' start start' : ℕ) (contours : List (List TaggedPoint)) :
    (traceContours n start contours).path = (traceContours n' start' contours).path := by
  induction contours generalizing n n' start start' with
  | nil => rfl
  | cons c rest ih =>
    rw [traceContours, traceContours]
    cases readContour c with
    | complete path => exact congrArg (path ++ ·) (ih ..)
    | leftOut fault => exact ih ..
    | cut path i => rfl

/-- Nothing is drawn of a contour that is left out. -/
theorem path_traceContours_erase {c : List TaggedPoint} {fault : ContourFault}
    (hc : readContour c = .leftOut fault) (n n' start start' : ℕ)
    (before after : List (List TaggedPoint)) :
    (traceContours n start (before ++ after)).path =
      (traceContours n' start' (before ++ c :: after)).path := by
  induction before generalizing n n' start start' with
  | nil =>
    simp only [List.nil_append, traceContours, hc]
    exact path_traceContours_congr ..
  | cons b before ih =>
    rw [List.cons_append, List.cons_append, traceContours, traceContours]
    cases readContour b with
    | complete path => exact congrArg (path ++ ·) (ih ..)
    | leftOut fault => exact ih ..
    | cut path i => rfl

/-- A contour that is reported as left out is one. -/
theorem exists_of_leftOut_mem {n start k : ℕ} {fault : ContourFault}
    {contours : List (List TaggedPoint)}
    (h : .leftOut fault k ∈ (traceContours n start contours).defects) :
    ∃ before c after, contours = before ++ c :: after ∧ k = n + before.length ∧
      readContour c = .leftOut fault := by
  induction contours generalizing n start with
  | nil => simp [traceContours, Tracing.empty] at h
  | cons c rest ih =>
    have hlater : ∀ {start'}, .leftOut fault k ∈ (traceContours (n + 1) start' rest).defects →
        ∃ before d after, c :: rest = before ++ d :: after ∧ k = n + before.length ∧
          readContour d = .leftOut fault := by
      intro start' hmem
      obtain ⟨before, d, after, rfl, rfl, hd⟩ := ih hmem
      exact ⟨c :: before, d, after, rfl, by rw [List.length_cons]; omega, hd⟩
    rw [traceContours] at h
    cases hread : readContour c with
    | complete path =>
      rw [hread] at h
      exact hlater h
    | leftOut fault' =>
      rw [hread] at h
      rcases List.mem_cons.1 h with heq | hmem
      · cases heq
        exact ⟨[], c, rest, rfl, rfl, hread⟩
      · exact hlater hmem
    | cut path i => simp [hread] at h

namespace Outline

/-- Taking out a contour that is left out keeps the others, and changes nothing of what is drawn. -/
theorem RangesValid.eraseContour_of_leftOut {o : Outline} (h : o.RangesValid) {fault : ContourFault}
    {k : ℕ} (hleft : .leftOut fault k ∈ o.trace.defects) :
    (o.eraseContour k).contours = o.contours.eraseIdx k ∧
      (o.eraseContour k).trace.path = o.trace.path := by
  obtain ⟨rest, hholds⟩ := h.exists_holds
  rw [hholds.trace_eq] at hleft ⊢
  obtain ⟨before, c, after, hsplit, rfl, hc⟩ := exists_of_leftOut_mem hleft
  rw [hsplit] at hholds ⊢
  rw [Nat.zero_add, hholds.eraseContour.trace_eq, hholds.eraseContour.contours_eq]
  refine ⟨?_, path_traceContours_erase hc ..⟩
  simp [List.eraseIdx_append_of_length_le]

/-- **Malformed contours are contained.** If the ranges of the contours are valid, these are met in
order up to the first that is cut, and the tracing is what they contribute, one after the other:
each what its own points give, with its own number. What is behind a cut has no influence, and only
the last defect can be one. Taking out a contour that was left out changes nothing of what is
drawn. -/
theorem trace_contained {o : Outline} (h : o.RangesValid) :
    ∃ met later, o.Meets o.contourRanges.zipIdx met later ∧
      (∀ c ∈ met, Contributes c.2 c.1.1 (o.slice c.1.1 c.1.2) (o.contributionAt c)) ∧
      o.trace = ⟨met.flatMap fun c => (o.contributionAt c).path,
        met.flatMap fun c => (o.contributionAt c).defects⟩ ∧
      ((∃ c ∈ met, (o.contributionAt c).IsCut) → ∀ o' : Outline,
        met.map (·.1) <+: o'.contourRanges →
        (∀ c ∈ met, o'.slice c.1.1 c.1.2 = o.slice c.1.1 c.1.2) → o'.trace = o.trace) ∧
      (∀ d ∈ o.trace.defects.dropLast, ∃ fault k, d = .leftOut fault k) ∧
      ∀ fault k, .leftOut fault k ∈ o.trace.defects →
        (o.eraseContour k).contours = o.contours.eraseIdx k ∧
          (o.eraseContour k).trace.path = o.trace.path := by
  obtain ⟨met, later, hmeets, htrace⟩ := traceRanges_eq 0 h
  have hranges : o.contourRanges = met.map (·.1) ++ later.map (·.1) := by
    rw [← List.map_append, ← hmeets.split, List.zipIdx_map_fst]
  have hmet : ∀ c ∈ met, c.1.1 ≤ c.1.2 ∧ c.1.2 < o.points.size := by
    intro c hc
    refine h c.1 ?_
    rw [hranges]
    exact List.mem_append_left _ (List.mem_map_of_mem hc)
  refine ⟨met, later, hmeets, fun c hc => ?_, htrace, ?_,
    mem_dropLast_defects_traceRanges 0 o.contourRanges, fun fault k => h.eraseContour_of_leftOut⟩
  · exact contributes_contribution _ _ (slice_ne_nil (hmet c hc))
  · rintro ⟨c, hc, hcut⟩ o' ⟨more, hmore⟩ hslice
    rw [trace, trace, ← hmore, hranges]
    refine traceRanges_congr 0 ?_ ?_ ?_ _ _
    · simpa using hmet
    · simpa using hslice
    · exact ⟨c.1, List.mem_map_of_mem hc, (isCut_contribution_iff ..).1 hcut⟩

/-- Four contours: a lone cubic control, a triangle, one that is cut at its third point, and a line
that is not met. -/
def spoiled : Outline where
  points := #[⟨⟨5, 5⟩, .cubic⟩,
    ⟨⟨0, 0⟩, .onCurve⟩, ⟨⟨10, 0⟩, .onCurve⟩, ⟨⟨0, 10⟩, .onCurve⟩,
    ⟨⟨20, 0⟩, .onCurve⟩, ⟨⟨30, 0⟩, .onCurve⟩, ⟨⟨30, 9⟩, .cubic⟩, ⟨⟨20, 9⟩, .onCurve⟩,
    ⟨⟨40, 0⟩, .onCurve⟩, ⟨⟨50, 0⟩, .onCurve⟩]
  ends := #[0, 3, 7, 9]

/-- The lone control can be taken out of the spoiled outline. -/
theorem trace_contained_spoiled :
    spoiled.RangesValid ∧
      spoiled.trace.defects = [.leftOut .cubicStart 0, .unexpectedTag 2 6] ∧
      (spoiled.eraseContour 0).trace.path = spoiled.trace.path := by
  have hdefects : spoiled.trace.defects = [.leftOut .cubicStart 0, .unexpectedTag 2 6] := rfl
  obtain ⟨met, later, -, -, -, -, -, herase⟩ := trace_contained (o := spoiled) (by decide)
  exact ⟨by decide, hdefects, (herase .cubicStart 0 (by simp [hdefects])).2⟩

end Outline

end Lettering
