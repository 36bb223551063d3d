import Lettering.Outline.Trace
import Mathlib.Data.List.Rotate

/-!
# Contours as closed curves

The points of a contour go round in a circle. `cycle` reads them once around from a point on the
curve, `withImplied` puts in the points of the curve that two quadratic controls in a row imply, and
`stepsTo` cuts the result at the points of the curve: each `CurveStep` leads from one of them to
the next, past the controls between the two. A contour is `Drawable` if its cubic controls come in
pairs between points of the curve.

`readContour` draws exactly the drawable contours, with one command for each step
(`readContour_drawable`).
-/

namespace Lettering

/-! ## The steps of a contour -/

/-- The points of a contour once around, from the point at which it opens: its first point if that
is on the curve, else its last if that is, else the point halfway between the two. -/
def cycle (points : List TaggedPoint) : List TaggedPoint :=
  match points.head?, points.getLast? with
  | some first, some last =>
    if first.kind = .onCurve then points
    else if last.kind = .onCurve then last :: points.dropLast
    else ⟨first.point.midpoint last.point, .onCurve⟩ :: points
  | _, _ => []

/-- The points with a point of the curve between every two quadratic controls in a row. -/
def withImplied : List TaggedPoint → List TaggedPoint
  | [] => []
  | [p] => [p]
  | p :: q :: rest =>
    if p.kind = .conic ∧ q.kind = .conic then
      p :: ⟨p.point.midpoint q.point, .onCurve⟩ :: withImplied (q :: rest)
    else p :: withImplied (q :: rest)

/-- The way from one point of the curve to the next. -/
structure CurveStep where
  /-- The controls passed on the way. -/
  controls : List TaggedPoint
  target : Point

namespace CurveStep

/-- The command that draws a step. -/
def command? (s : CurveStep) : Option PathCommand :=
  match s.controls with
  | [] => some (.lineTo s.target)
  | [⟨c, .conic⟩] => some (.conicTo s.target c)
  | [⟨c₁, .cubic⟩, ⟨c₂, .cubic⟩] => some (.cubicTo s.target c₁ c₂)
  | _ => none

/-- The points of a step in the order in which they are passed. -/
def points (s : CurveStep) : List Point := s.controls.map (·.point) ++ [s.target]

end CurveStep

/-- The steps along some points and back to `start`, if `controls` have been passed already. -/
def stepsTo (start : Point) (controls : List TaggedPoint) : List TaggedPoint → List CurveStep
  | [] => [⟨controls, start⟩]
  | p :: rest =>
    if p.kind = .onCurve then ⟨controls, p.point⟩ :: stepsTo start [] rest
    else stepsTo start (controls ++ [p]) rest

/-- Whether the last step is straight. -/
def endsStraight (steps : List CurveStep) : Bool :=
  steps.getLast?.any (·.controls.isEmpty)

/-- One command for each step, except that closing a contour draws a straight last step. -/
def DrawnBy (steps : List CurveStep) (path : List PathCommand) : Prop :=
  List.Forall₂ (fun s c => s.command? = some c)
    (if endsStraight steps then steps.dropLast else steps) path

/-- The points of a command in the order in which it passes them. -/
def PathCommand.passed : PathCommand → List Point
  | moveTo p => [p]
  | lineTo p => [p]
  | conicTo p c => [c, p]
  | cubicTo p c₁ c₂ => [c₁, c₂, p]
  | close => []

/-! ## Cubic controls in pairs -/

/-- Every longest run of cubic controls that has points on both sides consists of two, and stands
between points of the curve. -/
def CubicsPaired (walk : List TaggedPoint) : Prop :=
  ∀ before a run b after, walk = before ++ a :: (run ++ b :: after) → run ≠ [] →
    (∀ p ∈ run, p.kind = .cubic) → a.kind ≠ .cubic → b.kind ≠ .cubic →
    run.length = 2 ∧ a.kind = .onCurve ∧ b.kind = .onCurve

/-- Whether a contour can be drawn. A run of cubic controls is a longest one of the circle if the
points, read around from the run's first, are the run and a `rest` that neither begins nor ends on a
cubic control; the run's neighbours are the two ends of `rest`. -/
structure Drawable (points : List TaggedPoint) : Prop where
  start : ∀ first, points.head? = some first → first.kind ≠ .cubic
  conicStart : ∀ first last, points.head? = some first → points.getLast? = some last →
    first.kind = .conic → last.kind ≠ .cubic
  paired : ∀ run rest a b, points ~r run ++ rest → run ≠ [] → (∀ p ∈ run, p.kind = .cubic) →
    rest.getLast? = some a → rest.head? = some b → a.kind ≠ .cubic → b.kind ≠ .cubic →
    run.length = 2 ∧ a.kind = .onCurve ∧ b.kind = .onCurve

namespace CubicsPaired

theorem of_append (xs : List TaggedPoint) {ys : List TaggedPoint} (h : CubicsPaired (xs ++ ys)) :
    CubicsPaired ys := by
  rintro before a run b after rfl
  exact h (xs ++ before) a run b after (by simp)

/-- No run begins between a point and another that is not a cubic control. -/
theorem cons_iff {a b : TaggedPoint} (hb : b.kind ≠ .cubic) (rest : List TaggedPoint) :
    CubicsPaired (a :: b :: rest) ↔ CubicsPaired (b :: rest) := by
  refine ⟨fun h => of_append [a] h, fun h before a' run b' after hwalk hne hrun => ?_⟩
  cases before with
  | cons x before => exact h before a' run b' after (List.cons.inj hwalk).2 hne hrun
  | nil =>
    cases run with
    | nil => exact absurd rfl hne
    | cons r run =>
      obtain ⟨rfl, -⟩ := List.cons.inj (List.cons.inj hwalk).2
      exact absurd (hrun b List.mem_cons_self) hb

/-- No run ends between a point that is not a cubic control and the end of the walk. -/
theorem concat_iff {walk : List TaggedPoint} {a : TaggedPoint} (ha : a.kind ≠ .cubic)
    (b : TaggedPoint) : CubicsPaired (walk ++ [a, b]) ↔ CubicsPaired (walk ++ [a]) := by
  have hassoc : walk ++ [a, b] = (walk ++ [a]) ++ [b] := by simp
  rw [hassoc]
  constructor
  · intro h before a' run b' after hwalk
    exact h before a' run b' (after ++ [b]) (by simp [hwalk])
  · intro h before a' run b' after hwalk hne hrun
    rcases List.eq_nil_or_concat after with rfl | ⟨after, c, rfl⟩
    · -- the run would end on `a`
      obtain ⟨run, r, rfl⟩ := (List.eq_nil_or_concat run).resolve_left hne
      have hend : (walk ++ [a]) ++ [b] = ((before ++ a' :: run) ++ [r]) ++ [b'] := by
        simpa using hwalk
      have hlast := List.append_inj' (List.append_inj' hend rfl).1 rfl
      obtain rfl : a = r := List.head_eq_of_cons_eq hlast.2
      exact absurd (hrun a (by simp)) ha
    · have hend : (walk ++ [a]) ++ [b] = (before ++ a' :: (run ++ b' :: after)) ++ [c] := by
        simpa using hwalk
      exact h before a' run b' after (List.append_inj' hend rfl).1 hne hrun

/-- A run up to the first point that is not a cubic control. -/
theorem exists_run (walk : List TaggedPoint) (h : ∃ p ∈ walk, p.kind ≠ .cubic) :
    ∃ run b after, walk = run ++ b :: after ∧ (∀ p ∈ run, p.kind = .cubic) ∧ b.kind ≠ .cubic := by
  obtain ⟨b, hb⟩ := Option.isSome_iff_exists.1
    (List.find?_isSome.2 (by simpa using h) : (walk.find? fun p => p.kind != .cubic).isSome)
  obtain ⟨hcubic, run, after, hwalk, hrun⟩ := List.find?_eq_some_iff_append.1 hb
  exact ⟨run, b, after, hwalk, by simpa using hrun, by simpa using hcubic⟩

theorem takeWhile_run {run : List TaggedPoint} (hrun : ∀ p ∈ run, p.kind = .cubic)
    {b : TaggedPoint} (hb : b.kind ≠ .cubic) (after : List TaggedPoint) :
    (run ++ b :: after).takeWhile (fun p => p.kind == .cubic) = run := by
  rw [List.takeWhile_append_of_pos (by simpa using hrun)]
  simp [hb]

/-- The first run of a walk, and what follows it. -/
theorem run_iff {a b : TaggedPoint} (ha : a.kind ≠ .cubic) {run : List TaggedPoint}
    (hne : run ≠ []) (hrun : ∀ p ∈ run, p.kind = .cubic) (hb : b.kind ≠ .cubic)
    (rest : List TaggedPoint) :
    CubicsPaired (a :: (run ++ b :: rest)) ↔
      (run.length = 2 ∧ a.kind = .onCurve ∧ b.kind = .onCurve) ∧ CubicsPaired (b :: rest) := by
  constructor
  · intro h
    exact ⟨h [] a run b rest rfl hne hrun ha hb, of_append (a :: run) h⟩
  · rintro ⟨hpair, h⟩ before a' run' b' after hwalk hne' hrun' ha' hb'
    cases before with
    | nil =>
      obtain ⟨rfl, hrest⟩ := List.cons.inj hwalk
      obtain rfl : run = run' := by
        rw [← takeWhile_run hrun hb rest, hrest, takeWhile_run hrun' hb' after]
      obtain ⟨rfl, -⟩ := List.cons.inj (List.append_cancel_left hrest)
      exact hpair
    | cons x before =>
      obtain ⟨-, hrest⟩ := List.cons.inj hwalk
      rcases List.append_eq_append_iff.1 hrest with ⟨more, -, hmore⟩ | ⟨more, hmore, hlater⟩
      · exact h more a' run' b' after hmore hne' hrun' ha' hb'
      · cases more with
        | nil => exact h [] a' run' b' after hlater.symm hne' hrun' ha' hb'
        | cons m more =>
          obtain ⟨rfl, -⟩ := List.cons.inj hlater
          exact absurd (hrun a' (by simp [hmore])) ha'

/-- A run of cubic controls that begins a walk to the point `s` is a pair between points of the
curve. -/
theorem pair_of_run {a p s : TaggedPoint} {rest : List TaggedPoint} (ha : a.kind ≠ .cubic)
    (hp : p.kind = .cubic) (hs : s.kind ≠ .cubic) (hwalk : CubicsPaired (a :: p :: (rest ++ [s]))) :
    a.kind = .onCurve ∧ ∃ q b after, q.kind = .cubic ∧ b.kind = .onCurve ∧
      rest ++ [s] = q :: b :: after := by
  obtain ⟨run, b, after, hrest, hrun, hb⟩ :=
    exists_run (p :: (rest ++ [s])) ⟨s, by simp, hs⟩
  have hne : run ≠ [] := by
    rintro rfl
    obtain ⟨rfl, -⟩ := List.cons.inj hrest
    exact hb hp
  rw [hrest, run_iff ha hne hrun hb] at hwalk
  obtain ⟨⟨hlength, hona, honb⟩, -⟩ := hwalk
  match run, hlength with
  | [x, q], _ => exact ⟨hona, q, b, after, hrun q (by simp), honb, (List.cons.inj hrest).2⟩

end CubicsPaired

/-- A circle that begins outside a run is cut open between two points of the rest. -/
theorem exists_append_of_isRotated {first : TaggedPoint} {points run rest : List TaggedPoint}
    (hturn : first :: points ~r run ++ rest) (hfirst : first ∉ run) :
    ∃ front back, rest = back ++ front ∧ first :: points = front ++ run ++ back := by
  obtain ⟨n, hn, hcut⟩ := List.isRotated_iff_mod.1 hturn.symm
  rw [List.rotate_eq_drop_append_take hn] at hcut
  have hwhole := List.take_append_drop n (run ++ rest)
  rcases List.append_eq_append_iff.1 hwhole with ⟨more, hrun, hdrop⟩ | ⟨more, htake, hrest⟩
  · cases more with
    | nil => exact ⟨rest, [], by simp, by simpa [← hcut, hdrop] using hrun.symm⟩
    | cons m more =>
      rw [hdrop, List.cons_append, List.cons_append] at hcut
      obtain ⟨rfl, -⟩ := List.cons.inj hcut
      exact absurd (by rw [hrun]; simp) hfirst
  · exact ⟨_, more, hrest, by rw [← hcut, htake, List.append_assoc]⟩

/-- Of a circle that does not begin on a cubic control, the longest runs are those of the walk
through its points and back to the first. -/
theorem drawable_iff {first : TaggedPoint} (hfirst : first.kind ≠ .cubic)
    (points : List TaggedPoint) :
    Drawable (first :: points) ↔
      (∀ last, (first :: points).getLast? = some last → first.kind = .conic → last.kind ≠ .cubic) ∧
        CubicsPaired (first :: points ++ [first]) := by
  constructor
  · intro h
    refine ⟨fun last => h.conicStart first last rfl, ?_⟩
    intro before a run b after hwalk hne hrun ha hb
    rcases List.eq_nil_or_concat after with rfl | ⟨after, c, rfl⟩
    · -- the run ends on the last point, and the next is the first
      have hend : first :: points ++ [first] = (before ++ [a] ++ run) ++ [b] := by simpa using hwalk
      obtain ⟨hpoints, hb'⟩ := List.append_inj' hend rfl
      obtain rfl : first = b := List.head_eq_of_cons_eq hb'
      refine h.paired run (before ++ [a]) a first (hpoints ▸ List.isRotated_append) hne hrun
        (by simp) ?_ ha hb
      have hhead := congrArg List.head? hpoints
      cases before <;> simpa using hhead.symm
    · have hend : first :: points ++ [first] = (before ++ [a] ++ (run ++ b :: after)) ++ [c] := by
        simpa using hwalk
      have hpoints := (List.append_inj' hend rfl).1
      have hturn : first :: points ~r run ++ (b :: (after ++ before) ++ [a]) := by
        have hrotated : (before ++ [a]) ++ (run ++ b :: after) ~r
            (run ++ b :: after) ++ (before ++ [a]) := List.isRotated_append
        rw [hpoints]
        simpa using hrotated
      exact h.paired run _ a b hturn hne hrun List.getLast?_concat rfl ha hb
  · rintro ⟨hconic, h⟩
    refine ⟨fun x hx => ?_, fun x last hx => ?_,
      fun run rest a b hturn hne hrun hlast hhead ha hb => ?_⟩
    · obtain rfl : first = x := by simpa using hx
      exact hfirst
    · obtain rfl : first = x := by simpa using hx
      exact hconic last
    · obtain ⟨front, back, rfl, hpoints⟩ :=
        exists_append_of_isRotated hturn fun hmem => hfirst (hrun first hmem)
      cases front with
      | nil =>
        obtain ⟨r, run, rfl⟩ := List.exists_cons_of_ne_nil hne
        obtain ⟨rfl, -⟩ := List.cons.inj hpoints
        exact absurd (hrun first (by simp)) hfirst
      | cons x front =>
        obtain ⟨rfl, -⟩ := List.cons.inj hpoints
        obtain ⟨before, hbefore⟩ : ∃ before, first :: front = before ++ [a] :=
          List.getLast?_eq_some_iff.1 (by simpa using hlast)
        obtain ⟨after, hafter⟩ : ∃ after, back ++ [first] = b :: after :=
          List.head?_eq_some_iff.1 (by cases back <;> simpa using hhead)
        refine h before a run b after ?_ hne hrun ha hb
        rw [hpoints, hbefore, ← hafter]
        simp

/-! ## What is read -/

/-- Points are read to their end exactly if the cubic controls among them are paired, seen from the
point `a` of the curve or quadratic control before them and the point `s` of the curve after
them. -/
theorem readSegments_stop_iff (start : Point) (control : Option Point) (i : Nat)
    (points : List TaggedPoint) {a s : TaggedPoint} (hs : s.kind = .onCurve)
    (ha : a.kind = if control.isSome then .conic else .onCurve) :
    (readSegments start control i points).stop = none ↔ CubicsPaired (a :: (points ++ [s])) := by
  have hend : s.kind ≠ .cubic := by simp [hs]
  have hbefore : a.kind ≠ .cubic := by
    rw [ha]
    split <;> simp
  have hdone : CubicsPaired [s] := by
    intro before a run b after hwalk
    have := congrArg List.length hwalk
    simp at this
    omega
  fun_induction readSegments start control i points generalizing a with
  | case1 => simp [Segments.done, CubicsPaired.cons_iff hend, hdone]
  | case2 => simp [Segments.done, Segments.cons, CubicsPaired.cons_iff hend, hdone]
  | case3 i p rest ih =>
    rw [List.cons_append, CubicsPaired.cons_iff (by simp)]
    exact ih rfl (by simp)
  | case4 i p rest c ih =>
    rw [List.cons_append, CubicsPaired.cons_iff (by simp)]
    exact ih rfl (by simp)
  | case5 i p rest ih =>
    rw [List.cons_append, CubicsPaired.cons_iff (by simp)]
    exact ih rfl (by simp)
  | case6 i p rest c ih =>
    rw [List.cons_append, CubicsPaired.cons_iff (by simp)]
    exact ih rfl (by simp)
  | case7 i p q =>
    have hpair : CubicsPaired (a :: ([⟨p, .cubic⟩, ⟨q, .cubic⟩] ++ [s])) ↔ _ :=
      CubicsPaired.run_iff hbefore (by simp) (by simp) hend []
    simpa [Segments.done, Segments.cons, hs, hdone] using hpair.2 ⟨⟨rfl, ha, hs⟩, hdone⟩
  | case8 i p q r rest ih =>
    have hpair :
        CubicsPaired (a :: ([⟨p, .cubic⟩, ⟨q, .cubic⟩] ++ ⟨r, .onCurve⟩ :: (rest ++ [s]))) ↔ _ :=
      CubicsPaired.run_iff hbefore (by simp) (by simp) (by simp) (rest ++ [s])
    have hrest := ih (a := ⟨r, .onCurve⟩) rfl (by simp)
    exact hrest.trans ⟨fun h => hpair.2 ⟨⟨rfl, ha, rfl⟩, h⟩, fun h => (hpair.1 h).2⟩
  | case9 i p q x rest hx =>
    refine iff_of_false (by simp [Segments.stopAt]) fun h => ?_
    obtain ⟨-, _, b, _, -, hb, hwalk⟩ := CubicsPaired.pair_of_run hbefore rfl hend h
    obtain ⟨-, hwalk⟩ := List.cons.inj hwalk
    obtain ⟨rfl, -⟩ := List.cons.inj hwalk
    obtain ⟨r, kind⟩ := x
    obtain rfl : kind = .onCurve := hb
    exact hx r rfl
  | case10 control i p rest hone hpair hmore =>
    refine iff_of_false (by simp [Segments.stopAt]) fun h => ?_
    obtain ⟨ha', q, b, after, hq, hb, hwalk⟩ := CubicsPaired.pair_of_run hbefore rfl hend h
    obtain rfl : control = none := by
      cases control with
      | none => rfl
      | some c => simp [ha'] at ha
    match rest, hwalk with
    | [], hwalk =>
      obtain ⟨rfl, -⟩ := List.cons.inj hwalk
      exact hend hq
    | [⟨x, kind⟩], hwalk =>
      obtain ⟨rfl, -⟩ := List.cons.inj hwalk
      obtain rfl : kind = .cubic := hq
      exact hone x rfl rfl
    | ⟨x, kind⟩ :: y :: rest, hwalk =>
      obtain ⟨rfl, -⟩ := List.cons.inj hwalk
      obtain rfl : kind = .cubic := hq
      exact hmore x y rest rfl rfl

/-- No run goes past the end of a circle that neither begins nor ends on a cubic control. -/
theorem drawable_iff_of_getLast {first last : TaggedPoint} {points body : List TaggedPoint}
    (hfirst : first.kind ≠ .cubic) (hlast : last.kind ≠ .cubic)
    (hbody : first :: points = body ++ [last]) :
    Drawable (first :: points) ↔ CubicsPaired (first :: points) := by
  have hend : ∀ x, (first :: points).getLast? = some x → first.kind = .conic → x.kind ≠ .cubic := by
    intro x hx _
    obtain rfl : last = x := by simpa [hbody] using hx
    exact hlast
  have hclose : first :: points ++ [first] = body ++ [last, first] := by simp [hbody]
  rw [drawable_iff hfirst, and_iff_right hend, hclose, CubicsPaired.concat_iff hlast, hbody]

/-- A circle that ends on a lone cubic control cannot be drawn. -/
theorem not_drawable_of_lone_end {first last : TaggedPoint} {points body : List TaggedPoint}
    (hfirst : first.kind = .onCurve) (hlast : last.kind = .cubic)
    (hbody : first :: points = body ++ [last])
    (hlone : body.getLast?.map (·.kind) ≠ some .cubic) : ¬ Drawable (first :: points) := by
  intro h
  rcases List.eq_nil_or_concat body with rfl | ⟨body, a, rfl⟩
  · obtain ⟨rfl, -⟩ := List.cons.inj hbody
    simp [hfirst] at hlast
  · have ha : a.kind ≠ .cubic := by simpa using hlone
    have hpaired := ((drawable_iff (by simp [hfirst]) points).1 h).2
    have hpair := hpaired body a [last] first [] (by simp [hbody]) (by simp) (by simpa using hlast)
      ha (by simp [hfirst])
    simp at hpair

/-- How a contour is read: either it is left out and cannot be drawn, or it is opened where the
circle is, and the rest of the circle has to have its cubic controls paired. -/
theorem readContour_cases {points : List TaggedPoint} (hne : points ≠ []) :
    (¬ Drawable points ∧ ∃ fault, readContour points = .leftOut fault) ∨
      ∃ start rest i, cycle points = ⟨start, .onCurve⟩ :: rest ∧
        readContour points = readOpened start i rest ∧
        (Drawable points ↔
          CubicsPaired (⟨start, .onCurve⟩ :: (rest ++ [⟨start, .onCurve⟩]))) := by
  obtain ⟨body, ⟨q, last⟩, hbody⟩ := (List.eq_nil_or_concat points).resolve_left hne
  obtain ⟨⟨p, first⟩, tail, rfl⟩ := List.exists_cons_of_ne_nil hne
  rw [List.concat_eq_append] at hbody
  have hlast : (⟨p, first⟩ :: tail : List TaggedPoint).getLast? = some ⟨q, last⟩ := by simp [hbody]
  have hdropLast : (⟨p, first⟩ :: tail : List TaggedPoint).dropLast = body := by simp [hbody]
  cases first with
  | cubic => exact .inl ⟨fun h => h.start _ rfl rfl, .cubicStart, by simp [readContour, hlast]⟩
  | onCurve =>
    have hfirst : (⟨p, .onCurve⟩ : TaggedPoint).kind ≠ .cubic := by simp
    have hpaired := drawable_iff hfirst tail
    by_cases hlone : last = .cubic ∧ body.getLast?.map (·.kind) ≠ some .cubic
    · obtain ⟨rfl, hlone⟩ := hlone
      exact .inl ⟨not_drawable_of_lone_end rfl rfl hbody hlone, .cubicEnd,
        by simp [readContour, hlast, hdropLast, hlone]⟩
    · refine .inr ⟨p, tail, 1, by simp [cycle, hlast], ?_, by simpa using hpaired⟩
      cases last with
      | cubic => simp [readContour, hlast, hdropLast, not_not.1 (not_and.1 hlone rfl)]
      | onCurve | conic => simp [readContour, hlast]
  | conic =>
    cases last with
    | cubic =>
      exact .inl ⟨fun h => h.conicStart _ _ rfl hlast rfl rfl, .cubicEnd,
        by simp [readContour, hlast]⟩
    | onCurve =>
      refine .inr ⟨q, body, 0, by simp [cycle, hlast, hdropLast],
        by simp [readContour, hlast, hdropLast], ?_⟩
      rw [← hbody, CubicsPaired.cons_iff (by simp)]
      exact drawable_iff_of_getLast (by simp) (by simp) hbody
    | conic =>
      refine .inr ⟨p.midpoint q, ⟨p, .conic⟩ :: tail, 0, by simp [cycle, hlast],
        by simp [readContour, hlast], ?_⟩
      rw [List.cons_append, CubicsPaired.cons_iff (by simp), ← List.cons_append, hbody,
        List.append_assoc, List.singleton_append, CubicsPaired.concat_iff (by simp), ← hbody]
      exact drawable_iff_of_getLast (by simp) (by simp) hbody

/-! ## What is drawn -/

theorem withImplied_cons {p : TaggedPoint} (hp : p.kind ≠ .conic) (rest : List TaggedPoint) :
    withImplied (p :: rest) = p :: withImplied rest := by
  cases rest <;> simp [withImplied, hp]

/-- The last step leads back to the start. -/
theorem exists_stepsTo_eq (start : Point) (controls points : List TaggedPoint) :
    ∃ steps last, stepsTo start controls points = steps ++ [⟨last, start⟩] := by
  fun_induction stepsTo start controls points with
  | case1 controls => exact ⟨[], controls, rfl⟩
  | case2 controls p rest hp ih =>
    obtain ⟨steps, last, hsteps⟩ := ih
    exact ⟨⟨controls, p.point⟩ :: steps, last, by rw [hsteps, List.cons_append]⟩
  | case3 controls p rest hp ih => exact ih

theorem stepsTo_ne_nil (start : Point) (controls points : List TaggedPoint) :
    stepsTo start controls points ≠ [] := by
  obtain ⟨steps, last, hsteps⟩ := exists_stepsTo_eq start controls points
  simp [hsteps]

/-- No point is lost, read twice or moved between the steps. -/
theorem flatMap_points_stepsTo (start : Point) (controls points : List TaggedPoint) :
    (stepsTo start controls points).flatMap CurveStep.points =
      (controls ++ points).map (·.point) ++ [start] := by
  fun_induction stepsTo start controls points with
  | case1 controls => simp [CurveStep.points]
  | case2 controls p rest hp ih => simp [CurveStep.points, ih]
  | case3 controls p rest hp ih => simp [ih]

theorem CurveStep.passed_of_command? {s : CurveStep} {c : PathCommand} (h : s.command? = some c) :
    c.passed = s.points := by
  unfold command? at h
  split at h <;> cases h <;> simp_all [points, PathCommand.passed]

namespace DrawnBy

theorem cons {s : CurveStep} {c : PathCommand} {steps : List CurveStep} {path : List PathCommand}
    (hs : s.command? = some c) (hne : steps ≠ []) (h : DrawnBy steps path) :
    DrawnBy (s :: steps) (c :: path) := by
  obtain ⟨t, steps, rfl⟩ := List.exists_cons_of_ne_nil hne
  have hlast : endsStraight (s :: t :: steps) = endsStraight (t :: steps) := by simp [endsStraight]
  rw [DrawnBy, hlast]
  rw [DrawnBy] at h
  split at h
  · rw [if_pos ‹_›, List.dropLast_cons_cons]
    exact .cons hs h
  · rw [if_neg ‹_›]
    exact .cons hs h

/-- The points that the commands pass are those of the steps, without the start again if the last
step is straight. -/
theorem flatMap_passed {start : Point} {points : List TaggedPoint} {path : List PathCommand}
    (h : DrawnBy (stepsTo start [] points) path) :
    path.flatMap (·.passed) =
      points.map (·.point) ++ if endsStraight (stepsTo start [] points) then [] else [start] := by
  have hpassed : ∀ {steps : List CurveStep} {path : List PathCommand},
      List.Forall₂ (fun s c => s.command? = some c) steps path →
        path.flatMap (·.passed) = steps.flatMap CurveStep.points := by
    intro steps path h
    induction h with
    | nil => rfl
    | cons hs _ ih => simp [ih, CurveStep.passed_of_command? hs]
  have hpoints := flatMap_points_stepsTo start [] points
  obtain ⟨steps, last, hsteps⟩ := exists_stepsTo_eq start [] points
  rw [hpassed h]
  cases hstraight : endsStraight (stepsTo start [] points) with
  | false => simpa using hpoints
  | true =>
    obtain rfl : last = [] := by simpa [hsteps, endsStraight] using hstraight
    simpa [hsteps, CurveStep.points] using hpoints

end DrawnBy

/-- Segments read to the end draw the steps, from the control that was waiting on. -/
theorem drawnBy_readSegments (start : Point) (control : Option Point) (i : Nat)
    (points : List TaggedPoint) (h : (readSegments start control i points).stop = none) :
    DrawnBy (stepsTo start [] (withImplied (control.toList.map (⟨·, .conic⟩) ++ points)))
      (readSegments start control i points).path := by
  fun_induction readSegments start control i points with
  | case1 => exact List.Forall₂.nil
  | case2 => exact List.Forall₂.cons rfl .nil
  | case3 i p rest ih =>
    simpa [withImplied_cons, stepsTo, Segments.cons] using
      (ih h).cons (s := ⟨[], p⟩) rfl (stepsTo_ne_nil _ _ _)
  | case4 i p rest c ih =>
    simpa [withImplied, withImplied_cons, stepsTo, Segments.cons] using
      (ih h).cons (s := ⟨[⟨c, .conic⟩], p⟩) rfl (stepsTo_ne_nil _ _ _)
  | case5 i p rest ih => exact ih h
  | case6 i p rest c ih =>
    simpa [withImplied, stepsTo, Segments.cons] using
      (ih h).cons (s := ⟨[⟨c, .conic⟩], c.midpoint p⟩) rfl (stepsTo_ne_nil _ _ _)
  | case7 i p q => exact List.Forall₂.cons rfl .nil
  | case8 i p q r rest ih =>
    simpa [withImplied_cons, stepsTo, Segments.cons] using
      (ih h).cons (s := ⟨[⟨p, .cubic⟩, ⟨q, .cubic⟩], r⟩) rfl (stepsTo_ne_nil _ _ _)
  | case9 => simp [Segments.stopAt] at h
  | case10 => simp [Segments.stopAt] at h

theorem sublist_withImplied (points : List TaggedPoint) : points.Sublist (withImplied points) := by
  fun_induction withImplied points with
  | case1 => exact List.Sublist.slnil
  | case2 p => exact List.Sublist.refl _
  | case3 p q rest hconic ih => exact (ih.cons _).cons_cons p
  | case4 p q rest hconic ih => exact ih.cons_cons p

/-- The circle is read around once: from one of its points, or from a point put in front. -/
theorem exists_isRotated_sublist_cycle {points : List TaggedPoint} (hne : points ≠ []) :
    ∃ turned, points ~r turned ∧ turned.Sublist (cycle points) := by
  obtain ⟨body, last, hbody⟩ := (List.eq_nil_or_concat points).resolve_left hne
  obtain ⟨first, tail, htail⟩ := List.exists_cons_of_ne_nil hne
  have hlast : points.getLast? = some last := by simp [hbody]
  have hhead : points.head? = some first := by simp [htail]
  simp only [cycle, hhead, hlast]
  split
  · exact ⟨points, .refl _, .refl _⟩
  split
  · refine ⟨last :: points.dropLast, ?_, .refl _⟩
    rw [hbody]
    simpa using List.isRotated_concat last body
  · exact ⟨points, .refl _, List.sublist_cons_self _ _⟩

/-- **Tagged points are read as the closed curve that they describe.** A contour is drawn exactly if
no cubic control is out of place. It then opens where the circle is opened, takes one command for
each step between two points of the curve, implied ones included, and closes. Its commands pass the
points of the circle in order, all of them and each once. -/
theorem readContour_drawable {points : List TaggedPoint} (hne : points ≠ []) :
    ((∃ path, readContour points = .complete path) ↔ Drawable points) ∧
    (Drawable points → ∃ start rest commands,
      withImplied (cycle points) = ⟨start, .onCurve⟩ :: rest ∧
      DrawnBy (stepsTo start [] rest) commands ∧
      readContour points = .complete (.moveTo start :: commands ++ [.close]) ∧
      (.moveTo start :: commands ++ [.close] : List PathCommand).flatMap (·.passed) =
        (withImplied (cycle points)).map (·.point) ++
          (if endsStraight (stepsTo start [] rest) then [] else [start]) ∧
      ∃ turned, points ~r turned ∧ turned.Sublist (withImplied (cycle points))) := by
  rcases readContour_cases hne with
    ⟨hnot, fault, hleft⟩ | ⟨start, rest, i, hcycle, hopened, hpaired⟩
  · refine ⟨iff_of_false ?_ hnot, fun h => absurd h hnot⟩
    rintro ⟨path, hpath⟩
    rw [hleft] at hpath
    cases hpath
  · have hstop := readSegments_stop_iff start none i rest (a := ⟨start, .onCurve⟩)
      (s := ⟨start, .onCurve⟩) rfl rfl
    have hdrawn : Drawable points →
        readContour points =
          .complete (.moveTo start :: (readSegments start none i rest).path ++ [.close]) := by
      intro h
      rw [hopened, readOpened, hstop.2 (hpaired.1 h)]
    refine ⟨⟨?_, fun h => ⟨_, hdrawn h⟩⟩, fun h => ?_⟩
    · rintro ⟨path, hpath⟩
      refine hpaired.2 (hstop.1 ?_)
      cases hstopped : (readSegments start none i rest).stop with
      | none => rfl
      | some j => simp [hopened, readOpened, hstopped] at hpath
    · have himplied : withImplied (cycle points) = ⟨start, .onCurve⟩ :: withImplied rest := by
        rw [hcycle, withImplied_cons (by simp)]
      have hsteps := drawnBy_readSegments start none i rest (hstop.2 (hpaired.1 h))
      obtain ⟨turned, hturned, hsub⟩ := exists_isRotated_sublist_cycle hne
      refine ⟨start, withImplied rest, _, himplied, hsteps, hdrawn h, ?_, turned, hturned,
        hsub.trans (sublist_withImplied _)⟩
      have hpassed := hsteps.flatMap_passed
      simp_all [PathCommand.passed]

/-- A bow over a line is a closed curve; with one cubic control in place of the quadratic one it is
none. -/
theorem readContour_drawable_bow :
    Drawable [⟨⟨5, 10⟩, .conic⟩, ⟨⟨10, 0⟩, .onCurve⟩, ⟨⟨0, 0⟩, .onCurve⟩] ∧
      ¬ Drawable [⟨⟨0, 0⟩, .onCurve⟩, ⟨⟨5, 10⟩, .cubic⟩, ⟨⟨10, 0⟩, .onCurve⟩] := by
  refine ⟨(readContour_drawable (by simp)).1.1 ⟨_, rfl⟩, fun h => ?_⟩
  obtain ⟨path, hpath⟩ := (readContour_drawable (by simp)).1.2 h
  cases hpath

end Lettering
