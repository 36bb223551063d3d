import Lettering.Proofs.Outline.Contours
import Lettering.Proofs.Outline.Cycle

/-!
# Closed paths

A `ClosedPath` is a list of contours, each opened by one move, drawn by segments and ended by one
close. Whoever draws such a path always has a current point where one is needed
(`ClosedPath.foldlM_draw?`).

Tracing gives closed paths for all outlines, also for those that it cuts short or that record ends
out of order (`Outline.closedPath_trace`): a contour is drawn as a whole, not at all, or up to the
point that stops the reading, where it is closed.
-/

namespace Lettering

namespace PathCommand

/-- Whether a command draws from the current point to another. -/
def isSegment : PathCommand → Bool
  | lineTo _ | conicTo _ _ | cubicTo _ _ _ => true
  | moveTo _ | close => false

@[simp] theorem isSegment_mapPoints (f : Point → Point) (c : PathCommand) :
    (c.mapPoints f).isSegment = c.isSegment := by
  cases c <;> rfl

end PathCommand

/-- A path of one contour: a move, segments, and a close. -/
def IsContour (path : List PathCommand) : Prop :=
  ∃ start segments, path = .moveTo start :: segments ++ [.close] ∧ ∀ c ∈ segments, c.isSegment

/-- A path of contours, one after the other. -/
def ClosedPath (path : List PathCommand) : Prop :=
  ∃ contours : List (List PathCommand), path = contours.flatten ∧ ∀ c ∈ contours, IsContour c

theorem IsContour.closedPath {path : List PathCommand} (h : IsContour path) : ClosedPath path :=
  ⟨[path], by simp, by simpa using h⟩

theorem IsContour.map {path : List PathCommand} (h : IsContour path) (f : Point → Point) :
    IsContour (path.map (·.mapPoints f)) := by
  obtain ⟨start, segments, rfl, hsegments⟩ := h
  refine ⟨f start, segments.map (·.mapPoints f), by simp [PathCommand.mapPoints], fun c hc => ?_⟩
  obtain ⟨d, hd, rfl⟩ := List.mem_map.1 hc
  rw [PathCommand.isSegment_mapPoints]
  exact hsegments d hd

namespace ClosedPath

theorem nil : ClosedPath [] := ⟨[], rfl, by simp⟩

theorem append {xs ys : List PathCommand} (hx : ClosedPath xs) (hy : ClosedPath ys) :
    ClosedPath (xs ++ ys) := by
  obtain ⟨cs, rfl, hcs⟩ := hx
  obtain ⟨ds, rfl, hds⟩ := hy
  refine ⟨cs ++ ds, List.flatten_append.symm, fun c hc => ?_⟩
  exact (List.mem_append.1 hc).elim (hcs c) (hds c)

theorem map {path : List PathCommand} (h : ClosedPath path) (f : Point → Point) :
    ClosedPath (path.map (·.mapPoints f)) := by
  obtain ⟨cs, rfl, hcs⟩ := h
  refine ⟨cs.map (List.map (·.mapPoints f)), List.map_flatten, fun c hc => ?_⟩
  obtain ⟨d, hd, rfl⟩ := List.mem_map.1 hc
  exact (hcs d hd).map f

end ClosedPath

/-! ## The current point -/

/-- Draw an element from the current point, if there is one: the current point afterwards. An element
that needs a current point cannot be drawn without one. -/
def PathElement.draw? (current : Option Point) : PathElement → Option (Option Point)
  | move p => some (some p)
  | line p | quad _ p | curve _ _ p => current.map fun _ => some p
  | close => current.map fun _ => none

/-- Segments can be drawn one after the other. -/
theorem foldlM_draw?_segments {segments : List PathCommand} (h : ∀ c ∈ segments, c.isSegment)
    (p : Point) : ∃ q, (elements segments).foldlM PathElement.draw? (some p) = some (some q) := by
  induction segments generalizing p with
  | nil => exact ⟨p, rfl⟩
  | cons c rest ih =>
    have hc := h c List.mem_cons_self
    have hdraw : ∃ q, (PathElement.ofCommand c).draw? (some p) = some (some q) := by
      cases c with
      | lineTo q | conicTo q _ | cubicTo q _ _ => exact ⟨q, rfl⟩
      | moveTo _ | close => cases hc
    obtain ⟨q, hq⟩ := hdraw
    obtain ⟨r, hr⟩ := ih (fun d hd => h d (List.mem_cons_of_mem c hd)) q
    refine ⟨r, ?_⟩
    rw [elements, List.map_cons, List.foldlM_cons, hq]
    exact hr

theorem IsContour.foldlM_draw? {path : List PathCommand} (h : IsContour path)
    (current : Option Point) : (elements path).foldlM PathElement.draw? current = some none := by
  obtain ⟨start, segments, rfl, hsegments⟩ := h
  obtain ⟨q, hq⟩ := foldlM_draw?_segments hsegments start
  rw [elements] at hq
  simp [elements, PathElement.ofCommand, PathElement.draw?, hq]

/-- A closed path is drawn without ever missing a current point. -/
theorem ClosedPath.foldlM_draw? {path : List PathCommand} (h : ClosedPath path) :
    (elements path).foldlM PathElement.draw? none = some none := by
  obtain ⟨cs, rfl, hcs⟩ := h
  induction cs with
  | nil => rfl
  | cons c rest ih =>
    have hc := (hcs c List.mem_cons_self).foldlM_draw? none
    have hrest := ih fun d hd => hcs d (List.mem_cons_of_mem c hd)
    rw [elements] at hc hrest ⊢
    rw [List.flatten_cons, List.map_append, List.foldlM_append, hc]
    exact hrest

/-! ## Traced outlines -/

/-- Reading the points of a contour gives segments only. -/
theorem isSegment_of_mem_readSegments (start : Point) (control : Option Point) (i : Nat)
    (points : List TaggedPoint) :
    ∀ c ∈ (readSegments start control i points).path, c.isSegment := by
  have hcons : ∀ (c : PathCommand) (s : Segments), c.isSegment → (∀ d ∈ s.path, d.isSegment) →
      ∀ d ∈ (s.cons c).path, d.isSegment := fun c s hc hs => List.forall_mem_cons.2 ⟨hc, hs⟩
  have hnil : ∀ d ∈ ([] : List PathCommand), d.isSegment := List.forall_mem_nil _
  fun_induction readSegments start control i points with
  | case1 => exact hnil
  | case2 => exact hcons _ _ rfl hnil
  | case3 i p rest ih => exact hcons _ _ rfl ih
  | case4 i p rest c ih => exact hcons _ _ rfl ih
  | case5 i p rest ih => exact ih
  | case6 i p rest c ih => exact hcons _ _ rfl ih
  | case7 i p q => exact hcons _ _ rfl hnil
  | case8 i p q r rest ih => exact hcons _ _ rfl ih
  | case9 => exact hnil
  | case10 => exact hnil

/-- What is read of a contour is a contour once it is closed. -/
theorem isContour_of_readContour {points : List TaggedPoint} (hne : points ≠ []) :
    (∀ path, readContour points = .complete path → IsContour path) ∧
      ∀ path i, readContour points = .cut path i → IsContour (path ++ [.close]) := by
  rcases readContour_cases hne with ⟨-, fault, hleft⟩ | ⟨start, rest, i, -, hopened, -⟩
  · simp [hleft]
  · have hcontour : IsContour (.moveTo start :: (readSegments start none i rest).path ++ [.close]) :=
      ⟨start, _, rfl, isSegment_of_mem_readSegments start none i rest⟩
    rw [hopened, readOpened]
    cases (readSegments start none i rest).stop with
    | none =>
      refine ⟨fun path h => ?_, fun path j h => (by cases h)⟩
      obtain rfl := ContourReading.complete.inj h
      exact hcontour
    | some stop =>
      refine ⟨fun path h => (by cases h), fun path j h => ?_⟩
      obtain ⟨rfl, -⟩ := ContourReading.cut.inj h
      exact hcontour

namespace Outline

theorem closedPath_traceRanges (o : Outline) (n : Nat) (ranges : List (Nat × Nat)) :
    ClosedPath (o.traceRanges n ranges).path := by
  fun_induction o.traceRanges n ranges with
  | case1 => exact .nil
  | case2 n first last rest hrange path hread ih =>
    exact ((isContour_of_readContour (slice_ne_nil hrange)).1 path hread).closedPath.append ih
  | case3 n first last rest hrange fault hread ih => exact ih
  | case4 n first last rest hrange path i hread =>
    exact ((isContour_of_readContour (slice_ne_nil hrange)).2 path i hread).closedPath
  | case5 => exact .nil

/-- **Tracing closes what it opens**, for all outlines. -/
theorem closedPath_trace (o : Outline) : ClosedPath o.trace.path :=
  o.closedPath_traceRanges 0 o.contourRanges

end Outline

end Lettering
