import Lettering.Proofs.Outline.Cycle
import Mathlib.Order.Bounds.Basic

/-!
# Contours that cannot be drawn

A contour that is not drawable is either left out, for how it begins and ends (`IsLeftOut`), or
read up to the first point that is `OutOfPlace`. What has been gathered by then stays: the steps
that have come to their end before that point (`readSegments_stop`).

`Contributes` says what a contour adds to a tracing in either case, and if it is drawn. This is
about the points of the contour alone, and it is what tracing adds (`contributes_contribution`).
-/

namespace Lettering

/-! ## Points out of place -/

/-- The point of an index is out of place in a walk along a contour: it is a cubic control behind a
quadratic one, or one behind a point of the curve without a partner, or it stands where a pair of
cubic controls should have led to a point of the curve. -/
inductive OutOfPlace : List PointKind → ℕ → Prop
  | mixed (rest : List PointKind) : OutOfPlace (.conic :: .cubic :: rest) 1
  | alone {next : PointKind} (hnext : next ≠ .cubic) (rest : List PointKind) :
    OutOfPlace (.onCurve :: .cubic :: next :: rest) 1
  | unended {next : PointKind} (hnext : next ≠ .onCurve) (rest : List PointKind) :
    OutOfPlace (.onCurve :: .cubic :: .cubic :: next :: rest) 3
  | later (kind : PointKind) {rest : List PointKind} {j : ℕ} (h : OutOfPlace rest j) :
    OutOfPlace (kind :: rest) (j + 1)

namespace OutOfPlace

variable {a b : PointKind} {rest : List PointKind} {j k : ℕ}

/-- A point is out of place for what is before it. -/
theorem pos (h : OutOfPlace rest j) : 0 < j := by
  cases h <;> omega

theorem of_cons (hb : b ≠ .cubic) (h : OutOfPlace (a :: b :: rest) j) :
    ∃ i, j = i + 1 ∧ OutOfPlace (b :: rest) i := by
  cases h with
  | mixed => exact absurd rfl hb
  | alone => exact absurd rfl hb
  | unended => exact absurd rfl hb
  | later _ h => exact ⟨_, rfl, h⟩

/-- Behind a cubic control nothing is out of place on its account. -/
theorem of_cubic (h : OutOfPlace (.cubic :: rest) j) : ∃ i, j = i + 1 ∧ OutOfPlace rest i := by
  cases h with
  | later _ h => exact ⟨_, rfl, h⟩

/-- In a pair of cubic controls no point is out of place. -/
theorem of_pair (h : OutOfPlace (.onCurve :: .cubic :: .cubic :: rest) j) :
    (j = 3 ∧ ∃ next rest', rest = next :: rest' ∧ next ≠ .onCurve) ∨
      ∃ i, j = i + 3 ∧ OutOfPlace rest i := by
  cases h with
  | alone hnext => exact absurd rfl hnext
  | unended hnext => exact .inl ⟨rfl, _, _, rfl, hnext⟩
  | later _ h =>
    obtain ⟨_, rfl, hbehind⟩ := h.of_cubic
    obtain ⟨i, rfl, hrest⟩ := hbehind.of_cubic
    exact .inr ⟨i, rfl, hrest⟩

/-- The first point out of place is found past a point that is not a cubic control. -/
theorem isLeast_cons (hb : b ≠ .cubic) (h : IsLeast {j | OutOfPlace (b :: rest) j} k) :
    IsLeast {j | OutOfPlace (a :: b :: rest) j} (k + 1) := by
  refine ⟨.later a h.1, fun j hj => ?_⟩
  obtain ⟨i, rfl, hi⟩ := of_cons hb hj
  exact Nat.succ_le_succ (h.2 hi)

/-- And past a pair. -/
theorem isLeast_pair (h : IsLeast {j | OutOfPlace (.onCurve :: rest) j} k) :
    IsLeast {j | OutOfPlace (.onCurve :: .cubic :: .cubic :: .onCurve :: rest) j} (k + 3) := by
  refine ⟨.later _ (.later _ (.later _ h.1)), fun j hj => ?_⟩
  obtain ⟨-, next, rest', hnext, hne⟩ | ⟨i, rfl, hi⟩ := of_pair hj
  · obtain ⟨rfl, -⟩ := List.cons.inj hnext
    exact absurd rfl hne
  · exact Nat.add_le_add_right (h.2 hi) 3

theorem isLeast_one (h : OutOfPlace rest 1) : IsLeast {j | OutOfPlace rest j} 1 :=
  ⟨h, fun _ hj => pos hj⟩

theorem isLeast_unended (hb : b ≠ .onCurve) :
    IsLeast {j | OutOfPlace (.onCurve :: .cubic :: .cubic :: b :: rest) j} 3 := by
  refine ⟨.unended hb rest, fun j hj => ?_⟩
  obtain ⟨rfl, -⟩ | ⟨i, rfl, -⟩ := of_pair hj
  · exact le_rfl
  · exact Nat.le_add_left 3 i

end OutOfPlace

/-! ## Where reading stops -/

/-- The commands draw the steps along some points, except the last, which has not come to its
end. -/
def GatheredBy (start : Point) (points : List TaggedPoint) (path : List PathCommand) : Prop :=
  List.Forall₂ (fun s c => s.command? = some c)
    (stepsTo start [] (withImplied points)).dropLast path

/-- The kind of the point behind which points are read while a control may be waiting. -/
def kindBefore (control : Option Point) : PointKind :=
  if control.isSome then .conic else .onCurve

/-- The kinds of the points of a walk that goes on to a point of the curve. -/
def kindsTo (points : List TaggedPoint) : List PointKind :=
  points.map (·.kind) ++ [.onCurve]

theorem GatheredBy.cons {start : Point} {points points' : List TaggedPoint}
    {path : List PathCommand} {s : CurveStep} {c : PathCommand}
    (hsteps : stepsTo start [] (withImplied points') = s :: stepsTo start [] (withImplied points))
    (hs : s.command? = some c) (h : GatheredBy start points path) :
    GatheredBy start points' (c :: path) := by
  rw [GatheredBy, hsteps, List.dropLast_cons_of_ne_nil (stepsTo_ne_nil _ _ _)]
  exact .cons hs h

/-- Reading stops at the first point out of place, with the steps drawn that are complete by then.
The induction is along the reading, so that the walk begins behind what has been read. -/
theorem readSegments_stop (start : Point) (control : Option Point) (i : ℕ)
    (points : List TaggedPoint) {k : ℕ}
    (h : (readSegments start control i points).stop = some k) :
    ∃ m, k = i + m ∧
      IsLeast {j | OutOfPlace (kindBefore control :: kindsTo points) j} (m + 1) ∧
      GatheredBy start (control.toList.map (⟨·, .conic⟩) ++ points.take m)
        (readSegments start control i points).path := by
  fun_induction readSegments start control i points with
  | case1 => cases h
  | case2 => cases h
  | case3 i p rest ih =>
    obtain ⟨m, rfl, hleast, hgathered⟩ := ih h
    refine ⟨m + 1, by omega, OutOfPlace.isLeast_cons (by simp) hleast, ?_⟩
    exact hgathered.cons (s := ⟨[], p⟩) (by simp [withImplied_cons, stepsTo]) rfl
  | case4 i p rest c ih =>
    obtain ⟨m, rfl, hleast, hgathered⟩ := ih h
    refine ⟨m + 1, by omega, OutOfPlace.isLeast_cons (by simp) hleast, ?_⟩
    exact hgathered.cons (s := ⟨[⟨c, .conic⟩], p⟩)
      (by simp [withImplied, withImplied_cons, stepsTo]) rfl
  | case5 i p rest ih =>
    obtain ⟨m, rfl, hleast, hgathered⟩ := ih h
    exact ⟨m + 1, by omega, OutOfPlace.isLeast_cons (by simp) hleast, hgathered⟩
  | case6 i p rest c ih =>
    obtain ⟨m, rfl, hleast, hgathered⟩ := ih h
    refine ⟨m + 1, by omega, OutOfPlace.isLeast_cons (by simp) hleast, ?_⟩
    exact hgathered.cons (s := ⟨[⟨c, .conic⟩], c.midpoint p⟩) (by simp [withImplied, stepsTo]) rfl
  | case7 => cases h
  | case8 i p q r rest ih =>
    obtain ⟨m, rfl, hleast, hgathered⟩ := ih h
    refine ⟨m + 3, by omega, OutOfPlace.isLeast_pair hleast, ?_⟩
    exact hgathered.cons (s := ⟨[⟨p, .cubic⟩, ⟨q, .cubic⟩], r⟩)
      (by simp [withImplied_cons, stepsTo]) rfl
  | case9 i p q x rest hx =>
    obtain rfl : i + 2 = k := Option.some.inj h
    refine ⟨2, rfl, OutOfPlace.isLeast_unended fun hkind => ?_, List.Forall₂.nil⟩
    obtain ⟨r, kind⟩ := x
    obtain rfl : kind = .onCurve := hkind
    exact hx r rfl
  | case10 control i p rest hone hpair hmore =>
    obtain rfl : i = k := Option.some.inj h
    cases control with
    | some c => exact ⟨0, rfl, OutOfPlace.isLeast_one (.mixed _), List.Forall₂.nil⟩
    | none =>
      refine ⟨0, rfl, OutOfPlace.isLeast_one ?_, List.Forall₂.nil⟩
      rcases rest with - | ⟨⟨q, kind⟩, rest⟩
      · exact .alone (by simp : PointKind.onCurve ≠ .cubic) []
      · refine .alone (fun hkind => ?_) _
        obtain rfl : kind = .cubic := hkind
        cases rest with
        | nil => exact hone q rfl rfl
        | cons x rest => exact hmore q x rest rfl rfl

/-! ## How contours are read -/

/-- A contour is left out: it begins on a cubic control, or it begins elsewhere but ends on one that
has no partner in front of it or would have to wrap around to a quadratic control. -/
inductive IsLeftOut (points : List TaggedPoint) : ContourFault → Prop
  | cubicStart {first : TaggedPoint} (hhead : points.head? = some first)
    (hfirst : first.kind = .cubic) : IsLeftOut points .cubicStart
  | cubicEnd {first last : TaggedPoint} (hhead : points.head? = some first)
    (hfirst : first.kind ≠ .cubic) (hend : points.getLast? = some last) (hlast : last.kind = .cubic)
    (hlone : first.kind = .conic ∨ ∀ p ∈ points.dropLast.getLast?, p.kind ≠ .cubic) :
    IsLeftOut points .cubicEnd

/-- How many points of a contour have been passed where it is opened. -/
def passedAtOpening (points : List TaggedPoint) : ℕ :=
  if points.head?.map (·.kind) = some .onCurve then 1 else 0

/-- A contour is left out, or it is opened and the rest of the circle is read. -/
theorem readContour_eq {points : List TaggedPoint} (hne : points ≠ []) :
    (∃ fault, IsLeftOut points fault ∧ readContour points = .leftOut fault) ∨
      (∀ fault, ¬ IsLeftOut points fault) ∧
        ∃ start rest, cycle points = ⟨start, .onCurve⟩ :: rest ∧
          readContour points = readOpened start (passedAtOpening points) rest := by
  obtain ⟨⟨q, last⟩, hlast⟩ : ∃ last, points.getLast? = some last :=
    ⟨_, List.getLast?_eq_some_getLast hne⟩
  obtain ⟨⟨p, first⟩, tail, rfl⟩ := List.exists_cons_of_ne_nil hne
  have hkept : first ≠ .cubic → (last = .cubic → first ≠ .conic ∧
        ∃ b ∈ (⟨p, first⟩ :: tail : List TaggedPoint).dropLast.getLast?, b.kind = .cubic) →
      ∀ fault, ¬ IsLeftOut (⟨p, first⟩ :: tail) fault := by
    rintro hfirst hpartner fault (⟨hhead, hcubic⟩ | ⟨hhead, -, hend, hcubic, hlone⟩)
    · obtain rfl := Option.some.inj hhead
      exact hfirst hcubic
    · obtain rfl := Option.some.inj hhead
      obtain rfl := Option.some.inj (hlast.symm.trans hend)
      obtain ⟨hconic, b, hb, hbcubic⟩ := hpartner hcubic
      exact hlone.elim hconic fun h => h b hb hbcubic
  cases first with
  | cubic => exact .inl ⟨.cubicStart, .cubicStart rfl rfl, by simp [readContour, hlast]⟩
  | onCurve =>
    cases last with
    | onCurve | conic =>
      exact .inr ⟨hkept (by simp) (by simp), p, tail, by simp [cycle, hlast],
        by simp [readContour, hlast, passedAtOpening]⟩
    | cubic =>
      by_cases hpartner :
          (⟨p, .onCurve⟩ :: tail : List TaggedPoint).dropLast.getLast?.map (·.kind) = some .cubic
      · exact .inr ⟨hkept (by simp) (by simpa using hpartner), p, tail, by simp [cycle, hlast],
          by simp [readContour, hlast, passedAtOpening, hpartner]⟩
      · exact .inl ⟨.cubicEnd,
          .cubicEnd rfl (by simp) hlast rfl (.inr (by simpa using hpartner)),
          by simp [readContour, hlast, hpartner]⟩
  | conic =>
    cases last with
    | cubic =>
      exact .inl ⟨.cubicEnd, .cubicEnd rfl (by simp) hlast rfl (.inl rfl),
        by simp [readContour, hlast]⟩
    | onCurve =>
      exact .inr ⟨hkept (by simp) (by simp), q, (⟨p, .conic⟩ :: tail).dropLast,
        by simp [cycle, hlast], by simp [readContour, hlast, passedAtOpening]⟩
    | conic =>
      exact .inr ⟨hkept (by simp) (by simp), p.midpoint q, ⟨p, .conic⟩ :: tail,
        by simp [cycle, hlast],
        by simp [readContour, hlast, passedAtOpening]⟩

/-! ## What contours contribute -/

/-- What tracing adds for a contour, of which `n` is the number and `first` the index of its first
point. -/
def contribution (n first : ℕ) (points : List TaggedPoint) : Tracing :=
  match readContour points with
  | .complete path => ⟨path, []⟩
  | .leftOut fault => ⟨[], [.leftOut fault n]⟩
  | .cut path i => ⟨path ++ [.close], [.unexpectedTag n (first + i)]⟩

/-- What a contour contributes: all of its steps if it can be drawn, nothing if it is left out, and
otherwise its move, the steps that are complete in front of the first point out of place, and a
close. All but the first are reported, with the numbers of the contour and of the point. -/
inductive Contributes (n first : ℕ) (points : List TaggedPoint) : Tracing → Prop
  | drawn {start : Point} {rest : List TaggedPoint} {commands : List PathCommand}
    (hdrawable : Drawable points) (hcycle : cycle points = ⟨start, .onCurve⟩ :: rest)
    (hcommands : DrawnBy (stepsTo start [] (withImplied rest)) commands) :
    Contributes n first points ⟨.moveTo start :: commands ++ [.close], []⟩
  | leftOut {fault : ContourFault} (hleft : IsLeftOut points fault) :
    Contributes n first points ⟨[], [.leftOut fault n]⟩
  | cut {start : Point} {rest : List TaggedPoint} {commands : List PathCommand} {m : ℕ}
    (hkept : ∀ fault, ¬ IsLeftOut points fault)
    (hcycle : cycle points = ⟨start, .onCurve⟩ :: rest)
    (hplace : IsLeast {j | OutOfPlace (kindsTo (cycle points)) j} (m + 1))
    (hcommands : GatheredBy start (rest.take m) commands) :
    Contributes n first points ⟨.moveTo start :: commands ++ [.close],
      [.unexpectedTag n (first + (passedAtOpening points + m))]⟩

theorem contributes_contribution (n first : ℕ) {points : List TaggedPoint} (hne : points ≠ []) :
    Contributes n first points (contribution n first points) := by
  unfold contribution
  rcases readContour_eq hne with ⟨fault, hleft, hread⟩ | ⟨hkept, start, rest, hcycle, hread⟩
  · rw [hread]
    exact .leftOut hleft
  rw [hread, readOpened]
  cases hstop : (readSegments start none (passedAtOpening points) rest).stop with
  | none =>
    refine .drawn ?_ hcycle (drawnBy_readSegments start none _ rest hstop)
    rcases readContour_cases hne with ⟨-, fault, hleft⟩ | ⟨start', rest', i, hcycle', -, hpaired⟩
    · simp [hread, readOpened, hstop] at hleft
    · obtain ⟨hstart, rfl⟩ := List.cons.inj (hcycle.symm.trans hcycle')
      obtain ⟨rfl, -⟩ := TaggedPoint.mk.inj hstart
      exact hpaired.2 ((readSegments_stop_iff start none _ rest rfl rfl).1 hstop)
  | some k =>
    obtain ⟨m, rfl, hleast, hgathered⟩ := readSegments_stop start none _ rest hstop
    refine .cut hkept hcycle ?_ hgathered
    rw [hcycle]
    exact hleast

end Lettering
