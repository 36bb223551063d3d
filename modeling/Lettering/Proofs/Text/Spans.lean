import Lettering.Proofs.Text.Segment
import Mathlib.Data.List.TakeWhile

/-!
# The spans of a line

A line is cut where its script changes. `ScriptCut` says what such a cut is, without saying how it
is found: the spans are the line again, each is of the script of its first character, the others
have that script or take it over, and no cut could be left out. A line has exactly one such cut, and
it is the one that `splitSpans` makes (`Segmenter.spans_eq_iff_scriptCut`).
-/

namespace Lettering

/-- A span of one script: that of its first character, which the others have as well or take over
from what they follow. -/
def Span.OfOneScript (script : Char → ScriptTag) (span : Span) : Prop :=
  ∃ c rest, span.chars = c :: rest ∧ span.script = some (script c) ∧
    ∀ d ∈ rest, script d = script c ∨ script d = .inherited

/-- A line cut into spans where its script changes, and nowhere else. -/
structure ScriptCut (script : Char → ScriptTag) (line : List Char) (spans : List Span) : Prop where
  /-- Nothing is lost. -/
  covers : spans.flatMap (·.chars) = line
  uniform : ∀ span ∈ spans, span.OfOneScript script
  /-- Only the first span can begin with a character that takes its script over. -/
  follows : ∀ span ∈ spans.tail, span.script ≠ some .inherited
  /-- The script changes from each span to the next. -/
  changes : spans.IsChain fun span next => span.script ≠ next.script

theorem joinsSpan_iff {current next : ScriptTag} :
    joinsSpan current next = true ↔ next = current ∨ next = .inherited := by
  simp [joinsSpan, or_comm]

theorem joinsSpan_eq_false_iff {current next : ScriptTag} :
    joinsSpan current next = false ↔ next ≠ current ∧ next ≠ .inherited := by
  rw [← Bool.not_eq_true, joinsSpan_iff, not_or]

/-- Characters that join make up the first span if what is behind them does not join. -/
theorem splitSpans_cons_append {script : Char → ScriptTag} {c : Char} {rest line : List Char}
    (hjoin : ∀ d ∈ rest, joinsSpan (script c) (script d) = true)
    (hstop : ∀ d, line.head? = some d → joinsSpan (script c) (script d) = false) :
    splitSpans script (c :: (rest ++ line)) =
      ⟨c :: rest, some (script c)⟩ :: splitSpans script line := by
  have htake : line.takeWhile (fun d => joinsSpan (script c) (script d)) = [] := by
    cases line with
    | nil => rfl
    | cons d more => rw [List.takeWhile_cons_of_neg (by simp [hstop d rfl])]
  have hdrop : line.dropWhile (fun d => joinsSpan (script c) (script d)) = line := by
    cases line with
    | nil => rfl
    | cons d more => rw [List.dropWhile_cons_of_neg (by simp [hstop d rfl])]
  rw [splitSpans, List.takeWhile_append_of_pos hjoin, List.dropWhile_append_of_pos hjoin, htake,
    hdrop, List.append_nil]

namespace ScriptCut

variable {script : Char → ScriptTag} {line : List Char} {span : Span} {spans : List Span}

/-- The first span begins where the line does. -/
theorem head? (h : ScriptCut script line (span :: spans)) :
    ∃ c, line.head? = some c ∧ span.script = some (script c) := by
  obtain ⟨c, rest, hchars, hscript, -⟩ := h.uniform span List.mem_cons_self
  exact ⟨c, by rw [← h.covers, List.flatMap_cons, hchars]; rfl, hscript⟩

/-- Without its first span, a cut is one of what is left of the line. -/
theorem tail (h : ScriptCut script line (span :: spans)) :
    ScriptCut script (spans.flatMap (·.chars)) spans where
  covers := rfl
  uniform other hother := h.uniform other (List.mem_cons_of_mem span hother)
  follows other hother := h.follows other (List.mem_of_mem_tail hother)
  changes := h.changes.of_cons

/-- A span goes in front of a cut if the line behind it begins with another script. -/
theorem cons {c : Char} {rest : List Char}
    (hjoin : ∀ d ∈ rest, joinsSpan (script c) (script d) = true)
    (hstop : ∀ d, line.head? = some d → joinsSpan (script c) (script d) = false)
    (h : ScriptCut script line spans) :
    ScriptCut script (c :: (rest ++ line)) (⟨c :: rest, some (script c)⟩ :: spans) where
  covers := by rw [List.flatMap_cons, h.covers, List.cons_append]
  uniform := by
    refine List.forall_mem_cons.2 ⟨⟨c, rest, rfl, rfl, fun d hd => ?_⟩, h.uniform⟩
    exact joinsSpan_iff.1 (hjoin d hd)
  follows := by
    cases spans with
    | nil => simp
    | cons next more =>
      obtain ⟨d, hd, hscript⟩ := h.head?
      refine List.forall_mem_cons.2 ⟨?_, h.follows⟩
      rw [hscript]
      exact fun heq => (joinsSpan_eq_false_iff.1 (hstop d hd)).2 (Option.some.inj heq)
  changes := by
    cases spans with
    | nil => exact .singleton _
    | cons next more =>
      obtain ⟨d, hd, hscript⟩ := h.head?
      refine List.IsChain.cons_cons ?_ h.changes
      rw [hscript]
      exact fun heq => (joinsSpan_eq_false_iff.1 (hstop d hd)).1 (Option.some.inj heq).symm

/-- The spans that are found cut the line where its script changes. -/
theorem splitSpans (script : Char → ScriptTag) (line : List Char) :
    ScriptCut script line (splitSpans script line) := by
  fun_induction Lettering.splitSpans script line with
  | case1 => exact ⟨rfl, by simp, by simp, by simp⟩
  | case2 c rest joins ih =>
    have hjoin : ∀ d ∈ rest.takeWhile joins, joins d = true := fun d hd =>
      List.mem_takeWhile_imp hd
    have hstop : ∀ d, (rest.dropWhile joins).head? = some d → joins d = false := fun d hd => by
      have hnot := List.head?_dropWhile_not joins rest
      rw [hd] at hnot
      simpa using hnot
    have hcut := ih.cons hjoin hstop
    rwa [List.takeWhile_append_dropWhile] at hcut

/-- There is no other cut: the first span ends before the first character that does not join it. -/
theorem eq_splitSpans (h : ScriptCut script line spans) :
    spans = Lettering.splitSpans script line := by
  induction spans generalizing line with
  | nil =>
    obtain rfl : [] = line := h.covers
    rw [Lettering.splitSpans]
  | cons span more ih =>
    obtain ⟨c, rest, hchars, hscript, hrest⟩ := h.uniform span List.mem_cons_self
    have hline : line = c :: (rest ++ more.flatMap (·.chars)) := by
      rw [← h.covers, List.flatMap_cons, hchars, List.cons_append]
    have hstop : ∀ d, (more.flatMap (·.chars)).head? = some d →
        joinsSpan (script c) (script d) = false := by
      intro d hd
      cases more with
      | nil => cases hd
      | cons next more =>
        obtain ⟨e, he, hnext⟩ := h.tail.head?
        obtain rfl : e = d := Option.some.inj (he.symm.trans hd)
        refine joinsSpan_eq_false_iff.2 ⟨fun heq => ?_, fun heq => ?_⟩
        · exact List.rel_of_isChain_cons_cons h.changes (by rw [hscript, hnext, heq])
        · exact h.follows next List.mem_cons_self (by rw [hnext, heq])
    have hspan : span = ⟨c :: rest, some (script c)⟩ := by
      cases span
      exact congrArg₂ Span.mk hchars hscript
    rw [hline, splitSpans_cons_append (fun d hd => joinsSpan_iff.2 (hrest d hd)) hstop, hspan,
      ← ih h.tail]

end ScriptCut

namespace Segmenter

/-- **A line has one cut where its script changes, and that is its spans**, whatever scripts its
characters are taken for. Without scripts a line that is not empty is one span. -/
theorem spans_eq_iff_scriptCut (r : Option Reorderer) :
    (∀ (script : Char → ScriptTag) (line : List Char) (cut : List Span),
      cut = spans ⟨r, some script⟩ line ↔ ScriptCut script line cut) ∧
    ∀ line : List Char, spans ⟨r, none⟩ line = if line = [] then [] else [⟨line, none⟩] := by
  refine ⟨fun script line cut => ?_, fun line => ?_⟩
  · have hspans : spans ⟨r, some script⟩ line = splitSpans script line := by
      cases line with
      | nil => rw [spans_nil, splitSpans]
      | cons c rest => rfl
    rw [hspans]
    exact ⟨fun h => h ▸ ScriptCut.splitSpans script line, ScriptCut.eq_splitSpans⟩
  · cases line with
    | nil => exact spans_nil _
    | cons c rest => rfl

end Segmenter

end Lettering
