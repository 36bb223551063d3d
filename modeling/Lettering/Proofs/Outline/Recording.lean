import Lettering.Outline.Pen
import Lettering.Proofs.Outline.Contours

/-!
# What a pen draws

A pen draws a `PenContour` with a move, any strokes, and a close that may be left out. The recording
of such contours holds the points of each of them (`Recording.holds_contours`), and tracing it draws
them again: a move, one command for each stroke and a close for each contour (`trace_record`).
Fonts draw in coordinates of their own, such as single precision, which `widen` takes to points.
-/

namespace Lettering

variable {P : Type}

/-- One stroke of a pen that is down. -/
inductive Stroke (P : Type)
  | line (target : P)
  | quad (control target : P)
  | curve (control₁ control₂ target : P)

/-- A contour as a pen draws it. -/
structure PenContour (P : Type) where
  start : P
  strokes : List (Stroke P)
  /-- Whether the pen closes the contour before it goes on. -/
  closes : Bool

namespace Stroke

/-- The call that draws a stroke. -/
def call (widen : P → Point) : Stroke P → PenCall
  | line p => .line (widen p)
  | quad c p => .quad (widen c) (widen p)
  | curve c₁ c₂ p => .curve (widen c₁) (widen c₂) (widen p)

/-- The command that draws a stroke. -/
def command (widen : P → Point) : Stroke P → PathCommand
  | line p => .lineTo (widen p)
  | quad c p => .conicTo (widen p) (widen c)
  | curve c₁ c₂ p => .cubicTo (widen p) (widen c₁) (widen c₂)

/-- The points that are recorded for a stroke. -/
def points (widen : P → Point) : Stroke P → List TaggedPoint
  | line p => [⟨widen p, .onCurve⟩]
  | quad c p => [⟨widen c, .conic⟩, ⟨widen p, .onCurve⟩]
  | curve c₁ c₂ p => [⟨widen c₁, .cubic⟩, ⟨widen c₂, .cubic⟩, ⟨widen p, .onCurve⟩]

end Stroke

namespace PenContour

/-- The calls that draw a contour. -/
def calls (widen : P → Point) (c : PenContour P) : List PenCall :=
  .move (widen c.start) :: c.strokes.map (·.call widen) ++ if c.closes then [.close] else []

/-- The commands that draw a contour. -/
def path (widen : P → Point) (c : PenContour P) : List PathCommand :=
  .moveTo (widen c.start) :: c.strokes.map (·.command widen) ++ [.close]

/-- The points that are recorded for a contour. -/
def points (widen : P → Point) (c : PenContour P) : List TaggedPoint :=
  ⟨widen c.start, .onCurve⟩ :: c.strokes.flatMap (·.points widen)

end PenContour

/-! ## The recording -/

namespace Recording

variable (widen : P → Point)

/-- A stroke goes on with the contour that is open. -/
theorem holds_strokes (strokes : List (Stroke P)) {r : Recording}
    {contours : List (List TaggedPoint)} {rest : List TaggedPoint}
    (h : r.outline.Holds contours rest) :
    ((strokes.map (·.call widen)).foldl call r).outline.Holds contours
        (rest ++ strokes.flatMap (·.points widen)) ∧
      ((strokes.map (·.call widen)).foldl call r).isOpen = r.isOpen := by
  induction strokes generalizing r rest with
  | nil => simpa using h
  | cons s strokes ih =>
    have hs : (r.call (s.call widen)).outline.Holds contours (rest ++ s.points widen) ∧
        (r.call (s.call widen)).isOpen = r.isOpen := by
      cases s with
      | line p => exact ⟨h.push _ _, rfl⟩
      | quad c p =>
        have hpushed := (h.push (widen c) .conic).push (widen p) .onCurve
        rw [List.append_assoc] at hpushed
        exact ⟨hpushed, rfl⟩
      | curve c₁ c₂ p =>
        have hpushed := ((h.push (widen c₁) .cubic).push (widen c₂) .cubic).push (widen p) .onCurve
        rw [List.append_assoc, List.append_assoc] at hpushed
        exact ⟨hpushed, rfl⟩
    obtain ⟨hholds, hopen⟩ := ih hs.1
    refine ⟨?_, hopen.trans hs.2⟩
    simpa using hholds

/-- A contour is recorded behind those before it. Whether they are closed does not matter, because a
move ends them as finishing does. -/
theorem holds_calls (c : PenContour P) {r : Recording} {contours : List (List TaggedPoint)}
    (h : r.finish.Holds contours []) :
    ((c.calls widen).foldl call r).finish.Holds (contours ++ [c.points widen]) [] := by
  have hmoved := h.push (widen c.start) .onCurve
  obtain ⟨hdrawn, hopen⟩ := holds_strokes widen c.strokes
    (r := r.call (.move (widen c.start))) hmoved
  have hended := hdrawn.endContour (by simp)
  rw [PenContour.calls, List.foldl_append, List.foldl_cons]
  cases c.closes with
  | true => exact hended
  | false =>
    rw [finish, if_neg Bool.false_ne_true, List.foldl_nil, hopen]
    exact hended

theorem holds_contours (drawing : List (PenContour P)) {r : Recording}
    {contours : List (List TaggedPoint)} (h : r.finish.Holds contours []) :
    ((drawing.flatMap (·.calls widen)).foldl call r).finish.Holds
      (contours ++ drawing.map (·.points widen)) [] := by
  induction drawing generalizing r contours with
  | nil => simpa using h
  | cons c rest ih =>
    rw [List.flatMap_cons, List.foldl_append]
    simpa using ih (holds_calls widen c h)

end Recording

/-! ## The recording, traced -/

/-- Recorded strokes are read back as they were drawn. -/
theorem readSegments_strokes (widen : P → Point) (start : Point) (i : Nat)
    (strokes : List (Stroke P)) :
    readSegments start none i (strokes.flatMap (·.points widen)) =
      ⟨strokes.map (·.command widen), none⟩ := by
  induction strokes generalizing i with
  | nil => rfl
  | cons s rest ih =>
    have hread : ∃ j, readSegments start none i (s.points widen ++
        rest.flatMap (·.points widen)) =
          .cons (s.command widen) (readSegments start none j (rest.flatMap (·.points widen))) := by
      cases s <;> exact ⟨_, rfl⟩
    obtain ⟨j, hread⟩ := hread
    rw [List.flatMap_cons, hread, ih]
    rfl

/-- The points of a contour end on the curve. -/
theorem getLast?_points (widen : P → Point) (c : PenContour P) :
    ∃ p, (c.points widen).getLast? = some ⟨p, .onCurve⟩ := by
  have hstroke : ∀ s : Stroke P, ∃ controls p, s.points widen = controls ++ [⟨p, .onCurve⟩] := by
    intro s
    cases s with
    | line p => exact ⟨[], _, rfl⟩
    | quad c p => exact ⟨[_], _, rfl⟩
    | curve c₁ c₂ p => exact ⟨[_, _], _, rfl⟩
  unfold PenContour.points
  rcases List.eq_nil_or_concat c.strokes with hnil | ⟨strokes, s, hlast⟩
  · exact ⟨widen c.start, by rw [hnil]; rfl⟩
  · obtain ⟨controls, p, hp⟩ := hstroke s
    refine ⟨p, ?_⟩
    rw [hlast, List.concat_eq_append, List.flatMap_append, List.flatMap_singleton, hp,
      ← List.append_assoc, ← List.cons_append, List.getLast?_concat]

theorem readContour_points (widen : P → Point) (c : PenContour P) :
    readContour (c.points widen) = .complete (c.path widen) := by
  obtain ⟨p, hlast⟩ := getLast?_points widen c
  have hhead : (c.points widen).head? = some ⟨widen c.start, .onCurve⟩ := rfl
  have htail : (c.points widen).tail = c.strokes.flatMap (·.points widen) := rfl
  simp only [readContour, hhead, hlast, htail, readOpened, readSegments_strokes]
  rfl

/-- **What a pen has drawn is traced as it was drawn**: contours that open with a move, go on with
any strokes, and end with a close, with the next move or with the drawing come back in order and
without a defect, as a move, a command for each stroke through the same points, and a close. -/
theorem trace_record (widen : P → Point) (drawing : List (PenContour P)) :
    (PenCall.record (drawing.flatMap (·.calls widen))).trace =
      ⟨drawing.flatMap (·.path widen), []⟩ := by
  have hheld := Recording.holds_contours widen drawing (r := {}) Outline.holds_empty
  rw [PenCall.record, hheld.trace_eq]
  exact traceContours_of_complete _ _ (readContour_points widen) 0 0 drawing

end Lettering
