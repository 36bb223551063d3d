import Lettering.Proofs.Outline.Contained

/-!
# Points looked up by index

An outline says where its contours end by numbers that may be anything. `IndexReader.tracing`
traces it as a machine does: points are looked up by index, and indices are words, of which `max` is
the largest. A look-up of an index that does not exist, a sum that is no word and a difference below
zero leave the computation without a result, and all indices that are looked up are noted.

Such a computation `Gives` a value if it goes through. What reading a contour gives is followed
along the points that are still ahead (`IndexReader.Ahead`): the index stays within the contour, and
moves on by what has been read, which is also why the reading ends. Together: tracing by index gives
what `Outline.trace` is and looks up no point outside the contours that are met, all of which lie in
front of the first range that has no points or leaves them (`Outline.trace_in_bounds`).
-/

namespace Lettering

/-- A computation that looks points up by index. It keeps the indices it has looked up, the latest
first, and has no result once an index does not exist or is no word. -/
abbrev IndexReader := StateT (List ℕ) Option

/-- The segments with the stop counted from `d` points earlier. -/
def Segments.behind (d : ℕ) (s : Segments) : Segments := ⟨s.path, s.stop.map (d + ·)⟩

/-- The reading with indices counted from `d` points earlier. -/
def ContourReading.behind (d : ℕ) : ContourReading → ContourReading
  | complete path => complete path
  | leftOut fault => leftOut fault
  | cut path i => cut path (d + i)

namespace IndexReader

/-! ## Programs -/

/-- The point of an index. -/
def look (points : Array TaggedPoint) (i : ℕ) : IndexReader TaggedPoint := fun looked =>
  points[i]?.map (·, i :: looked)

/-- Go on if a sum of indices is a word. -/
def word (max i : ℕ) : IndexReader Unit := if i ≤ max then pure () else failure

/-- The index before another; there is none before the first. -/
def before (i : ℕ) : IndexReader ℕ := if 0 < i then pure (i - 1) else failure

/-- The point of an index from which one goes on to the next index. -/
def take (points : Array TaggedPoint) (max i : ℕ) : IndexReader TaggedPoint := do
  let p ← look points i
  word max (i + 1)
  return p

/-- The pair of cubic controls that begins at an index; none if the second is missing. -/
def pair? (points : Array TaggedPoint) (max stop index : ℕ) :
    IndexReader (Option (Point × Point)) := do
  word max (index + 1)
  if stop < index + 1 then return none
  if (← look points (index + 1)).kind ≠ .cubic then return none
  let p ← look points index
  let q ← take points max (index + 1)
  return some (p.point, q.point)

/-- Read the points of a contour after its opening move, the next at `index` and the last at `stop`.
`control` is a quadratic control still waiting for its end point. -/
def segments (points : Array TaggedPoint) (max : ℕ) (start : Point) (stop : ℕ)
    (control : Option Point) (index : ℕ) : IndexReader Segments :=
  if index ≤ stop then do
    match control, (← look points index).kind with
    | none, .onCurve =>
      let p ← take points max index
      return .cons (.lineTo p.point) (← segments points max start stop none (index + 1))
    | some c, .onCurve =>
      let p ← take points max index
      return .cons (.conicTo p.point c) (← segments points max start stop none (index + 1))
    | none, .conic =>
      let p ← take points max index
      segments points max start stop (some p.point) (index + 1)
    | some c, .conic =>
      let p ← take points max index
      return .cons (.conicTo (c.midpoint p.point) c)
        (← segments points max start stop (some p.point) (index + 1))
    | some _, .cubic => return .stopAt index
    | none, .cubic =>
      match ← pair? points max stop index with
      | none => return .stopAt index
      | some (p, q) =>
        if stop < index + 2 then return .cons (.cubicTo start p q) .done
        if (← look points (index + 2)).kind ≠ .onCurve then return .stopAt (index + 2)
        let r ← take points max (index + 2)
        return .cons (.cubicTo r.point p q) (← segments points max start stop none (index + 3))
  else
    match control with
    | none => return .done
    | some c => return .cons (.conicTo start c) .done
termination_by stop + 1 - index

/-- Open a contour at `start` and read its points from `index` to `stop`. -/
def opened (points : Array TaggedPoint) (max : ℕ) (start : Point) (stop index : ℕ) :
    IndexReader ContourReading := do
  let s ← segments points max start stop none index
  match s.stop with
  | none => return .complete (.moveTo start :: s.path ++ [.close])
  | some i => return .cut (.moveTo start :: s.path) i

/-- Whether a contour ends on a cubic control that has none before it. -/
def endsAlone (points : Array TaggedPoint) (first last : ℕ) : IndexReader Bool := do
  if (← look points last).kind ≠ .cubic then return false
  if last = first then return true
  let p ← look points (← before last)
  return decide (p.kind ≠ .cubic)

/-- Read the contour of a range. -/
def contour (points : Array TaggedPoint) (max first last : ℕ) : IndexReader ContourReading := do
  let isAlone ← endsAlone points first last
  match (← look points first).kind, (← look points last).kind with
  | .cubic, _ => return .leftOut .cubicStart
  | .conic, .cubic => return .leftOut .cubicEnd
  | .onCurve, _ =>
    if isAlone then return .leftOut .cubicEnd
    let p ← take points max first
    opened points max p.point last (first + 1)
  | .conic, .onCurve =>
    let p ← look points last
    opened points max p.point (← before last) first
  | .conic, .conic =>
    let p ← look points first
    let q ← look points last
    opened points max (p.point.midpoint q.point) last first

/-- Trace the contours with the given ends, the first of which has number `n` and begins at the
index `start`. -/
def tracing (points : Array TaggedPoint) (max n start : ℕ) : List ℕ → IndexReader Tracing
  | [] => return .empty
  | last :: rest => do
    word max (last + 1)
    if points.size ≤ last ∨ last < start then return .empty
    match ← contour points max start last with
    | .complete path => return .prepend path (← tracing points max (n + 1) (last + 1) rest)
    | .leftOut fault =>
      return .note (.leftOut fault n) (← tracing points max (n + 1) (last + 1) rest)
    | .cut path i => return ⟨path ++ [.close], [.unexpectedTag n i]⟩

/-! ## What programs give -/

variable {α β : Type} {P Q : ℕ → Prop}

/-- The computation goes through and gives `a`, whatever has been looked up before. It looks up
indices with the property `P` only. -/
def Gives (m : IndexReader α) (a : α) (P : ℕ → Prop) : Prop :=
  ∀ looked, ∃ more, m looked = some (a, more ++ looked) ∧ ∀ i ∈ more, P i

theorem gives_pure (a : α) : Gives (pure a) a P := fun _ => ⟨[], rfl, by simp⟩

theorem Gives.mono {m : IndexReader α} {a : α} (h : Gives m a P) (hPQ : ∀ i, P i → Q i) :
    Gives m a Q := by
  intro looked
  obtain ⟨more, hm, hmore⟩ := h looked
  exact ⟨more, hm, fun i hi => hPQ i (hmore i hi)⟩

theorem Gives.bind {m : IndexReader α} {f : α → IndexReader β} {a : α} {b : β} (h : Gives m a P)
    (hf : Gives (f a) b P) : Gives (m >>= f) b P := by
  intro looked
  obtain ⟨more, hm, hmore⟩ := h looked
  obtain ⟨more', hrest, hmore'⟩ := hf (more ++ looked)
  refine ⟨more' ++ more, ?_, fun i hi => (List.mem_append.1 hi).elim (hmore' i) (hmore i)⟩
  change (m looked).bind (fun r => f r.1 r.2) = _
  rw [hm, List.append_assoc]
  exact hrest

variable {points : Array TaggedPoint} {max : ℕ} {p : TaggedPoint} {i : ℕ}

theorem gives_look (hp : points[i]? = some p) (hi : P i) : Gives (look points i) p P := fun _ =>
  ⟨[i], by simp [look, hp], by simpa using hi⟩

theorem word_eq (h : i ≤ max) : word max i = pure () := if_pos h

theorem gives_before (h : 0 < i) : Gives (before i) (i - 1) P := by
  rw [before, if_pos h]
  exact gives_pure (i - 1)

theorem gives_take (hp : points[i]? = some p) (hi : P i) (hmax : points.size ≤ max) :
    Gives (take points max i) p P := by
  have hlt := (Array.getElem?_eq_some_iff.1 hp).1
  rw [take, word_eq (hlt.trans_le hmax)]
  exact (gives_look hp hi).bind (gives_pure p)

/-! ## The points ahead -/

/-- The points from an index up to `stop`, which may be looked up. -/
structure Ahead (points : Array TaggedPoint) (P : ℕ → Prop) (stop index : ℕ)
    (rest : List TaggedPoint) : Prop where
  isPrefix : rest <+: points.toList.drop index
  length : index + rest.length = stop + 1
  allowed : ∀ i, index ≤ i → i ≤ stop → P i

namespace Ahead

variable {stop index : ℕ} {rest : List TaggedPoint}

theorem lt_of_nil (h : Ahead points P stop index []) : stop < index := by
  have := h.length
  rw [List.length_nil] at this
  omega

theorem le (h : Ahead points P stop index (p :: rest)) : index ≤ stop := by
  have := h.length
  rw [List.length_cons] at this
  omega

theorem getElem?_eq (h : Ahead points P stop index (p :: rest)) : points[index]? = some p := by
  obtain ⟨after, hafter⟩ := h.isPrefix
  have hhead := congrArg List.head? hafter
  rw [List.head?_drop, Array.getElem?_toList] at hhead
  exact hhead.symm

theorem lt_size (h : Ahead points P stop index (p :: rest)) : index < points.size :=
  (Array.getElem?_eq_some_iff.1 h.getElem?_eq).1

/-- The points behind the next. -/
theorem tail (h : Ahead points P stop index (p :: rest)) :
    Ahead points P stop (index + 1) rest := by
  obtain ⟨⟨after, hafter⟩, hlength, hallowed⟩ := h
  have htail := congrArg List.tail hafter
  rw [List.tail_drop] at htail
  rw [List.length_cons] at hlength
  exact ⟨⟨after, htail⟩, by omega, fun i hi => hallowed i (by omega)⟩

/-- The next point can be looked up. -/
theorem gives_look (h : Ahead points P stop index (p :: rest)) : Gives (look points index) p P :=
  IndexReader.gives_look h.getElem?_eq (h.allowed index le_rfl h.le)

/-- The index can be moved on behind it. -/
theorem gives_take (h : Ahead points P stop index (p :: rest)) (hmax : points.size ≤ max) :
    Gives (take points max index) p P :=
  IndexReader.gives_take h.getElem?_eq (h.allowed index le_rfl h.le) hmax

theorem add_length (h : Ahead points P stop index (rest ++ [p])) : index + rest.length = stop := by
  have := h.length
  rw [List.length_append, List.length_singleton] at this
  omega

/-- The last point can be looked up. -/
theorem gives_look_last (h : Ahead points P stop index (rest ++ [p])) :
    Gives (look points stop) p P := by
  obtain ⟨after, hafter⟩ := h.isPrefix
  have hlast : (points.toList.drop index)[rest.length]? = points.toList[index + rest.length]? :=
    List.getElem?_drop
  have hlength := h.add_length
  rw [← hafter, List.append_assoc, List.getElem?_append_right le_rfl, Nat.sub_self,
    hlength] at hlast
  refine IndexReader.gives_look ?_ (h.allowed stop (by omega) le_rfl)
  simpa using hlast.symm

/-- Points before the last are not the first of all. -/
theorem stop_pos (h : Ahead points P stop index (rest ++ [p])) (hne : rest ≠ []) : 0 < stop := by
  have hpos : 0 < rest.length := List.length_pos_iff.2 hne
  have := h.add_length
  omega

/-- The points before the last. -/
theorem dropLast (h : Ahead points P stop index (rest ++ [p])) (hne : rest ≠ []) :
    Ahead points P (stop - 1) index rest := by
  have hpos := h.stop_pos hne
  have hlength := h.add_length
  exact ⟨(List.prefix_append rest [p]).trans h.isPrefix, by omega,
    fun i hi hle => h.allowed i hi (by omega)⟩

end Ahead

/-! ## Reading a contour -/

variable {stop d : ℕ}

/-- Two cubic controls that are ahead are a pair. -/
theorem gives_pair? {index : ℕ} {p q : Point} {rest : List TaggedPoint}
    (hmax : points.size ≤ max)
    (h : Ahead points P stop index (⟨p, .cubic⟩ :: ⟨q, .cubic⟩ :: rest)) :
    Gives (pair? points max stop index) (some (p, q)) P := by
  rw [pair?, word_eq (h.lt_size.trans_le hmax), pure_bind, if_neg h.tail.le.not_gt]
  refine h.tail.gives_look.bind ?_
  rw [if_neg (by simp)]
  exact h.gives_look.bind ((h.tail.gives_take hmax).bind (gives_pure _))

/-- A cubic control without another behind it is none. -/
theorem gives_pair?_none {index : ℕ} {rest : List TaggedPoint} (hmax : points.size ≤ max)
    (h : Ahead points P stop index (p :: rest)) (hrest : ∀ q ∈ rest.head?, q.kind ≠ .cubic) :
    Gives (pair? points max stop index) none P := by
  rw [pair?, word_eq (h.lt_size.trans_le hmax), pure_bind]
  cases rest with
  | nil =>
    rw [if_pos h.tail.lt_of_nil]
    exact gives_pure none
  | cons q more =>
    rw [if_neg h.tail.le.not_gt]
    refine h.tail.gives_look.bind ?_
    rw [if_pos (hrest q rfl)]
    exact gives_pure none

/-- Reading points by index gives what reading their list gives. The induction is along the list, of
which each round of the reading leaves what is behind the next index. -/
theorem gives_segments (hmax : points.size ≤ max) (start : Point) (control : Option Point) (i : ℕ)
    (rest : List TaggedPoint) (h : Ahead points P stop (d + i) rest) :
    Gives (segments points max start stop control (d + i))
      ((readSegments start control i rest).behind d) P := by
  fun_induction readSegments start control i rest with
  | case1 i =>
    rw [segments, if_neg h.lt_of_nil.not_ge]
    exact gives_pure _
  | case2 i c =>
    rw [segments, if_neg h.lt_of_nil.not_ge]
    exact gives_pure _
  | case3 i p rest ih =>
    rw [segments, if_pos h.le]
    exact h.gives_look.bind ((h.gives_take hmax).bind ((ih h.tail).bind (gives_pure _)))
  | case4 i p rest c ih =>
    rw [segments, if_pos h.le]
    exact h.gives_look.bind ((h.gives_take hmax).bind ((ih h.tail).bind (gives_pure _)))
  | case5 i p rest ih =>
    rw [segments, if_pos h.le]
    exact h.gives_look.bind ((h.gives_take hmax).bind (ih h.tail))
  | case6 i p rest c ih =>
    rw [segments, if_pos h.le]
    exact h.gives_look.bind ((h.gives_take hmax).bind ((ih h.tail).bind (gives_pure _)))
  | case7 i p q =>
    have hthird : stop < d + i + 2 := h.tail.tail.lt_of_nil
    rw [segments, if_pos h.le]
    refine h.gives_look.bind ((gives_pair? hmax h).bind ?_)
    dsimp only
    rw [if_pos hthird]
    exact gives_pure _
  | case8 i p q r rest ih =>
    have hthird : ¬ stop < d + i + 2 := h.tail.tail.le.not_gt
    rw [segments, if_pos h.le]
    refine h.gives_look.bind ((gives_pair? hmax h).bind ?_)
    dsimp only
    rw [if_neg hthird]
    refine h.tail.tail.gives_look.bind ?_
    rw [if_neg (by simp)]
    exact (h.tail.tail.gives_take hmax).bind ((ih h.tail.tail.tail).bind (gives_pure _))
  | case9 i p q x rest hx =>
    have hkind : x.kind ≠ .onCurve := by
      obtain ⟨r, kind⟩ := x
      rintro rfl
      exact hx r rfl
    have hthird : ¬ stop < d + i + 2 := h.tail.tail.le.not_gt
    rw [segments, if_pos h.le]
    refine h.gives_look.bind ((gives_pair? hmax h).bind ?_)
    dsimp only
    rw [if_neg hthird]
    refine h.tail.tail.gives_look.bind ?_
    rw [if_pos hkind]
    exact gives_pure _
  | case10 control i p rest hone hpair hmore =>
    cases control with
    | some c =>
      rw [segments, if_pos h.le]
      exact h.gives_look.bind (gives_pure _)
    | none =>
      have hrest : ∀ q ∈ rest.head?, q.kind ≠ .cubic := by
        rintro ⟨q, kind⟩ hq rfl
        obtain ⟨more, rfl⟩ := List.head?_eq_some_iff.1 hq
        cases more with
        | nil => exact hone q rfl rfl
        | cons x more => exact hmore q x more rfl rfl
      rw [segments, if_pos h.le]
      exact h.gives_look.bind ((gives_pair?_none hmax h hrest).bind (gives_pure _))

theorem gives_opened (hmax : points.size ≤ max) (start : Point) (i : ℕ) (rest : List TaggedPoint)
    (h : Ahead points P stop (d + i) rest) :
    Gives (opened points max start stop (d + i)) ((readOpened start i rest).behind d) P := by
  refine (gives_segments hmax start none i rest h).bind ?_
  rw [Segments.behind, readOpened]
  cases (readSegments start none i rest).stop with
  | none => exact gives_pure _
  | some k => exact gives_pure _

variable {first last : ℕ} {body : List TaggedPoint}

theorem gives_endsAlone (h : Ahead points P last first (body ++ [p])) :
    Gives (endsAlone points first last)
      (decide (p.kind = .cubic ∧ ∀ q ∈ body.getLast?, q.kind ≠ .cubic)) P := by
  rw [endsAlone]
  refine h.gives_look_last.bind ?_
  by_cases hcubic : p.kind = .cubic
  · rw [if_neg (not_not.2 hcubic)]
    rcases List.eq_nil_or_concat body with rfl | ⟨front, q, rfl⟩
    · have hsame : last = first := h.add_length.symm
      rw [if_pos hsame, decide_eq_true (by simp [hcubic])]
      exact gives_pure true
    · rw [List.concat_eq_append] at h ⊢
      have hlength := h.add_length
      have hne : front ++ [q] ≠ [] := by simp
      rw [if_neg (by simp at hlength; omega)]
      refine (gives_before (h.stop_pos hne)).bind ((h.dropLast hne).gives_look_last.bind ?_)
      have hkind : decide (p.kind = .cubic ∧ ∀ x ∈ (front ++ [q]).getLast?, x.kind ≠ .cubic) =
          decide (q.kind ≠ .cubic) := by
        simp [hcubic]
      rw [hkind]
      exact gives_pure _
  · rw [if_pos hcubic, decide_eq_false (by simp [hcubic])]
    exact gives_pure false

theorem gives_contour (hmax : points.size ≤ max) {c : List TaggedPoint} (hne : c ≠ [])
    (h : Ahead points P last first c) :
    Gives (contour points max first last) ((readContour c).behind first) P := by
  obtain ⟨body, ⟨q, kind'⟩, hbody⟩ := (List.eq_nil_or_concat c).resolve_left hne
  obtain ⟨⟨p, kind⟩, tail, rfl⟩ := List.exists_cons_of_ne_nil hne
  rw [List.concat_eq_append] at hbody
  have hconcat := h
  rw [hbody] at hconcat
  have hend : (⟨p, kind⟩ :: tail : List TaggedPoint).getLast? = some ⟨q, kind'⟩ := by simp [hbody]
  have hdropLast : (⟨p, kind⟩ :: tail : List TaggedPoint).dropLast = body := by simp [hbody]
  rw [contour]
  refine (gives_endsAlone hconcat).bind (h.gives_look.bind (hconcat.gives_look_last.bind ?_))
  simp only [readContour, List.head?_cons, hend, hdropLast, List.tail_cons]
  cases kind with
  | cubic => exact gives_pure _
  | onCurve =>
    have hopened := gives_opened (d := first) hmax p 1 tail h.tail
    cases kind' with
    | cubic =>
      dsimp only
      by_cases hpartner : body.getLast?.map (·.kind) = some .cubic
      · rw [if_pos hpartner, if_neg (by simpa using hpartner)]
        exact (h.gives_take hmax).bind hopened
      · rw [if_neg hpartner, if_pos (by simpa using hpartner)]
        exact gives_pure _
    | onCurve | conic =>
      dsimp only
      rw [if_neg (by simp)]
      exact (h.gives_take hmax).bind hopened
  | conic =>
    cases kind' with
    | cubic => exact gives_pure _
    | onCurve =>
      have hbodyNe : body ≠ [] := by
        rintro rfl
        simp at hbody
      refine hconcat.gives_look_last.bind ((gives_before (hconcat.stop_pos hbodyNe)).bind ?_)
      exact gives_opened (d := first) hmax q 0 body (hconcat.dropLast hbodyNe)
    | conic =>
      refine h.gives_look.bind (hconcat.gives_look_last.bind ?_)
      exact gives_opened (d := first) hmax _ 0 _ h

end IndexReader

namespace Outline

/-! ## Ranges in bounds -/

/-- Whether a range has points, and all of them exist. -/
def hasRange (o : Outline) (r : ℕ × ℕ) : Bool := decide (r.1 ≤ r.2 ∧ r.2 < o.points.size)

/-- The outline with the contours in front of the first range that has no points or leaves them. -/
def inBounds (o : Outline) : Outline :=
  { o with ends := ((o.contourRanges.takeWhile o.hasRange).map (·.2)).toArray }

/-- The outline traced with its points looked up by index. -/
def tracingByIndex (o : Outline) (max : ℕ) : IndexReader Tracing :=
  IndexReader.tracing o.points max 0 0 o.ends.toList

variable {o : Outline} {max : ℕ}

/-- Cutting off ends cuts off their ranges. -/
theorem rangesFrom_takeWhile (keeps : ℕ × ℕ → Bool) (start : ℕ) (ends : List ℕ) :
    rangesFrom start (((rangesFrom start ends).takeWhile keeps).map (·.2)) =
      (rangesFrom start ends).takeWhile keeps := by
  induction ends generalizing start with
  | nil => rfl
  | cons last rest ih =>
    rw [rangesFrom, List.takeWhile_cons]
    split
    · rw [List.map_cons, rangesFrom, ih]
    · rfl

theorem contourRanges_inBounds (o : Outline) :
    o.inBounds.contourRanges = o.contourRanges.takeWhile o.hasRange :=
  rangesFrom_takeWhile o.hasRange 0 o.ends.toList

/-- Ends behind the first range out of bounds are not looked at. -/
theorem tracing_takeWhile (n start : ℕ) {ends : List ℕ} (hends : ∀ e ∈ ends, e < max) :
    IndexReader.tracing o.points max n start ends =
      IndexReader.tracing o.points max n start
        (((rangesFrom start ends).takeWhile o.hasRange).map (·.2)) := by
  induction ends generalizing n start with
  | nil => rfl
  | cons last rest ih =>
    have hrest := fun n => ih n (last + 1) fun e he => hends e (List.mem_cons_of_mem last he)
    rw [rangesFrom, List.takeWhile_cons]
    split
    · simp only [IndexReader.tracing, List.map_cons, hrest]
    · next hrange =>
      have hout : o.points.size ≤ last ∨ last < start := by
        simp [hasRange] at hrange
        omega
      rw [IndexReader.tracing, IndexReader.word_eq (hends last List.mem_cons_self), pure_bind,
        if_pos hout]
      rfl

/-- The points of a range in bounds are ahead where it begins. -/
theorem ahead_slice {first last : ℕ} (h : first ≤ last ∧ last < o.points.size) :
    IndexReader.Ahead o.points (fun i => first ≤ i ∧ i ≤ last) last first
      (o.slice first last) := by
  refine ⟨?_, ?_, fun i hi hle => ⟨hi, hle⟩⟩
  · rw [slice, Array.toList_extract, List.extract_eq_take_drop]
    exact List.take_prefix _ _
  · rw [slice, Array.length_toList, Array.size_extract]
    omega

/-- Tracing by index gives what tracing gives, and looks up points of the contours that are met:
those in bounds up to the first that is cut. -/
theorem gives_tracing (hsize : o.points.size ≤ max) (n start : ℕ) {ends : List ℕ}
    (hends : ∀ e ∈ ends, e < max) :
    ∃ met later, o.Meets (((rangesFrom start ends).takeWhile o.hasRange).zipIdx n) met later ∧
      IndexReader.Gives (IndexReader.tracing o.points max n start ends)
        (o.traceRanges n (rangesFrom start ends)) (fun i => ∃ c ∈ met, c.1.1 ≤ i ∧ i ≤ c.1.2) ∧
      o.traceRanges n (rangesFrom start ends) = ⟨met.flatMap fun c => (o.contributionAt c).path,
        met.flatMap fun c => (o.contributionAt c).defects⟩ := by
  induction ends generalizing n start with
  | nil => exact ⟨[], [], ⟨rfl, by simp, by simp⟩, IndexReader.gives_pure _, rfl⟩
  | cons last rest ih =>
    have hword := hends last List.mem_cons_self
    obtain ⟨met, later, hmeets, hgives, htrace⟩ :=
      ih (n + 1) (last + 1) fun e he => hends e (List.mem_cons_of_mem last he)
    rw [rangesFrom, IndexReader.tracing, IndexReader.word_eq hword, pure_bind]
    by_cases hrange : start ≤ last ∧ last < o.points.size
    · have hin : ¬ (o.points.size ≤ last ∨ last < start) := by omega
      have hread := IndexReader.gives_contour hsize (slice_ne_nil hrange) (ahead_slice hrange)
      rw [List.takeWhile_cons_of_pos (by simpa [hasRange] using hrange), if_neg hin]
      by_cases hcut : (o.contributionAt ((start, last), n)).IsCut
      · obtain ⟨path, i, hpath⟩ := (isCut_contribution_iff ..).1 hcut
        refine ⟨[((start, last), n)], _, ⟨rfl, by simp, fun _ => ⟨_, rfl, hcut⟩⟩, ?_, ?_⟩
        · refine (hread.mono fun i hi => ⟨_, List.mem_singleton_self _, hi⟩).bind ?_
          rw [traceRanges, if_pos hrange, hpath]
          exact IndexReader.gives_pure _
        · rw [traceRanges_cons_of_cut n hrange hcut]
          simp
      · refine ⟨((start, last), n) :: met, later, hmeets.cons hcut, ?_, ?_⟩
        · have hlater := hgives.mono fun i hi =>
            hi.imp fun c => And.imp_left (List.mem_cons_of_mem ((start, last), n))
          refine (hread.mono fun i hi => ⟨_, List.mem_cons_self, hi⟩).bind ?_
          rw [traceRanges, if_pos hrange]
          cases hpath : readContour (o.slice start last) with
          | complete path => exact hlater.bind (IndexReader.gives_pure _)
          | leftOut fault => exact hlater.bind (IndexReader.gives_pure _)
          | cut path i => exact absurd ((isCut_contribution_iff ..).2 ⟨path, i, hpath⟩) hcut
        · rw [traceRanges_cons_of_not_cut n hrange hcut, htrace]
          rfl
    · have hout : o.points.size ≤ last ∨ last < start := by omega
      rw [List.takeWhile_cons_of_neg (by simpa [hasRange] using hrange), if_pos hout, traceRanges,
        if_neg hrange]
      exact ⟨[], [], ⟨rfl, by simp, by simp⟩, IndexReader.gives_pure _, rfl⟩

/-- **No index goes astray**, whatever the recorded ends are. Tracing by index goes through and
gives what tracing gives. It looks up no points but those of the contours that are met, which exist.
The contours met are those in front of the first range out of bounds, up to the first that is cut,
and add what their points give. With the ends from that range on cut off, the computation is the
same. -/
theorem trace_in_bounds (hsize : o.points.size ≤ max) (hends : ∀ e ∈ o.ends, e < max) :
    ∃ met later looked,
      o.Meets (o.contourRanges.takeWhile o.hasRange).zipIdx met later ∧
      (∀ c ∈ met, Contributes c.2 c.1.1 (o.slice c.1.1 c.1.2) (o.contributionAt c)) ∧
      o.trace = ⟨met.flatMap fun c => (o.contributionAt c).path,
        met.flatMap fun c => (o.contributionAt c).defects⟩ ∧
      (o.tracingByIndex max).run [] = some (o.trace, looked) ∧
      (∀ i ∈ looked, i < o.points.size ∧ ∃ c ∈ met, c.1.1 ≤ i ∧ i ≤ c.1.2) ∧
      o.inBounds.contourRanges = o.contourRanges.takeWhile o.hasRange ∧
      o.tracingByIndex max = o.inBounds.tracingByIndex max := by
  have hends' : ∀ e ∈ o.ends.toList, e < max := fun e he => hends e (Array.mem_toList_iff.1 he)
  obtain ⟨met, later, hmeets, hgives, htrace⟩ := gives_tracing hsize 0 0 hends'
  rw [← contourRanges] at hmeets hgives htrace
  obtain ⟨looked, hrun, hlooked⟩ := hgives []
  have hmet : ∀ c ∈ met, c.1.1 ≤ c.1.2 ∧ c.1.2 < o.points.size := by
    intro c hc
    have hmem : c ∈ (o.contourRanges.takeWhile o.hasRange).zipIdx := by
      rw [hmeets.split]
      exact List.mem_append_left later hc
    have hrange := List.all_eq_true.1 List.all_takeWhile c.1 (List.fst_mem_of_mem_zipIdx hmem)
    simpa [hasRange] using hrange
  refine ⟨met, later, looked, hmeets, fun c hc => ?_, htrace, ?_, fun i hi => ?_,
    o.contourRanges_inBounds, ?_⟩
  · exact contributes_contribution _ _ (slice_ne_nil (hmet c hc))
  · rwa [List.append_nil] at hrun
  · obtain ⟨c, hc, hle⟩ := hlooked i hi
    have := (hmet c hc).2
    exact ⟨by omega, c, hc, hle⟩
  · rw [tracingByIndex, tracing_takeWhile 0 0 hends']
    rfl

/-- A triangle and one more point, with ends that go back and then far beyond the points. -/
def stray : Outline where
  points := #[⟨⟨0, 0⟩, .onCurve⟩, ⟨⟨10, 0⟩, .onCurve⟩, ⟨⟨0, 10⟩, .onCurve⟩, ⟨⟨5, 5⟩, .onCurve⟩]
  ends := #[2, 1, 3, 0xFFFFFFFFFFFFFFFE]

/-- With words of 64 bits, no point is looked up but those of the triangle. -/
theorem trace_in_bounds_stray :
    stray.points.size ≤ 0xFFFFFFFFFFFFFFFF ∧ (∀ e ∈ stray.ends, e < 0xFFFFFFFFFFFFFFFF) ∧
      ∃ looked, (stray.tracingByIndex 0xFFFFFFFFFFFFFFFF).run [] = some (stray.trace, looked) ∧
        ∀ i ∈ looked, i ≤ 2 := by
  have hsize : stray.points.size ≤ 0xFFFFFFFFFFFFFFFF := by decide
  have hends : ∀ e ∈ stray.ends, e < 0xFFFFFFFFFFFFFFFF := by decide
  have hmeets : (stray.contourRanges.takeWhile stray.hasRange).zipIdx = [((0, 2), 0)] := by decide
  obtain ⟨met, later, looked, hsplit, -, -, hrun, hlooked, -⟩ := trace_in_bounds hsize hends
  refine ⟨hsize, hends, looked, hrun, fun i hi => ?_⟩
  obtain ⟨-, c, hc, hle⟩ := hlooked i hi
  have hmem : c ∈ [((0, 2), 0)] := by
    rw [← hmeets, hsplit.split]
    exact List.mem_append_left later hc
  obtain rfl : c = ((0, 2), 0) := by simpa using hmem
  exact hle.2

end Outline

end Lettering
