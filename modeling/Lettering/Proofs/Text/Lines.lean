import Lettering.Text.Lines
import Mathlib.Data.List.Basic

/-!
# The pieces of a text between its breaks

A `Cut` takes a text apart into pieces without breaks and the breaks between them, where a carriage
return and the line feed behind it are one break. Every text can be cut, and in one way only
(`exists_cut`, `Cut.unique`). Normalising a text and splitting it gives the pieces of its cut with
their tabs expanded (`Cut.splitLines_normalizeText`).
-/

namespace Lettering

/-- The characters that break lines. -/
def breakChars : List Char := ['\n', '\x0b', '\x0c', '\r', '\x85', '\u2028', '\u2029']

theorem isLineBreak_iff (c : Char) : isLineBreak c = true ↔ c ∈ breakChars := by
  simp [isLineBreak, breakChars, or_assoc]

theorem isLineBreak_eq_false_iff (c : Char) : isLineBreak c = false ↔ c ∉ breakChars := by
  rw [← isLineBreak_iff, Bool.not_eq_true]

/-- Nothing in a text breaks lines. -/
def BreakFree (text : List Char) : Prop := ∀ c ∈ text, c ∉ breakChars

/-- The breaks that can stand before `rest`. A carriage return is a break of its own only if no line
feed follows. -/
inductive IsBreak (rest : List Char) : List Char → Prop
  | pair : IsBreak rest ['\r', '\n']
  | single {c : Char} (h : c ∈ breakChars) (hcr : c = '\r' → rest.head? ≠ some '\n') :
      IsBreak rest [c]

/-- A text, the pieces between its breaks, and the breaks. -/
inductive Cut : List Char → List (List Char) → List (List Char) → Prop
  | last {piece : List Char} (h : BreakFree piece) : Cut piece [piece] []
  | step {piece b rest : List Char} {pieces breaks : List (List Char)} (hpiece : BreakFree piece)
      (hb : IsBreak rest b) (h : Cut rest pieces breaks) :
      Cut (piece ++ (b ++ rest)) (piece :: pieces) (b :: breaks)

theorem BreakFree.nil : BreakFree [] := List.forall_mem_nil _

namespace Cut

variable {text : List Char} {pieces breaks : List (List Char)}

/-- There is one piece more than there are breaks. -/
theorem length_pieces (h : Cut text pieces breaks) : pieces.length = breaks.length + 1 := by
  induction h with
  | last => rfl
  | step _ _ _ ih => rw [List.length_cons, List.length_cons, ih]

theorem breakFree (h : Cut text pieces breaks) : ∀ piece ∈ pieces, BreakFree piece := by
  induction h with
  | last h => simpa using h
  | step hpiece _ _ ih => exact List.forall_mem_cons.2 ⟨hpiece, ih⟩

/-- A character that is no break goes to the first piece. -/
theorem cons {c : Char} (hc : c ∉ breakChars) (h : Cut text pieces breaks) :
    Cut (c :: text) (consFirst c pieces) breaks := by
  cases h with
  | last h => exact .last (List.forall_mem_cons.2 ⟨hc, h⟩)
  | step hpiece hb h => exact .step (List.forall_mem_cons.2 ⟨hc, hpiece⟩) hb h

end Cut

/-- Every text can be cut. -/
theorem exists_cut (text : List Char) : ∃ pieces breaks, Cut text pieces breaks := by
  match text with
  | [] => exact ⟨_, _, .last .nil⟩
  | c :: rest =>
    by_cases hc : c ∈ breakChars
    · by_cases hcr : c = '\r' → rest.head? ≠ some '\n'
      · obtain ⟨pieces, breaks, h⟩ := exists_cut rest
        exact ⟨_, _, .step .nil (.single hc hcr) h⟩
      · -- the two characters of a pair are taken at once
        obtain ⟨rfl, hhead⟩ := Classical.not_imp.1 hcr
        obtain ⟨more, rfl⟩ := List.head?_eq_some_iff.1 (not_not.1 hhead)
        obtain ⟨pieces, breaks, h⟩ := exists_cut more
        exact ⟨_, _, .step .nil .pair h⟩
    · obtain ⟨pieces, breaks, h⟩ := exists_cut rest
      exact ⟨_, _, h.cons hc⟩
termination_by text.length

/-! ## Only one cut -/

/-- A break begins with a character that breaks lines. -/
theorem IsBreak.exists_eq_cons {rest b : List Char} (h : IsBreak rest b) :
    ∃ c more, c ∈ breakChars ∧ b ++ rest = c :: more := by
  cases h with
  | pair => exact ⟨'\r', '\n' :: rest, by decide, rfl⟩
  | single hc _ => exact ⟨_, rest, hc, rfl⟩

/-- The piece before a break is what comes before the first character that breaks lines. -/
theorem BreakFree.takeWhile_append {piece rest b : List Char} (h : BreakFree piece)
    (hb : IsBreak rest b) :
    (piece ++ (b ++ rest)).takeWhile (fun c => !isLineBreak c) = piece ∧
      (piece ++ (b ++ rest)).dropWhile (fun c => !isLineBreak c) = b ++ rest := by
  have hall : ∀ c ∈ piece, (!isLineBreak c) = true := fun c hc => by
    rw [(isLineBreak_eq_false_iff c).2 (h c hc), Bool.not_false]
  obtain ⟨c, more, hc, heq⟩ := hb.exists_eq_cons
  have hstop : (!isLineBreak c) = false := by rw [(isLineBreak_iff c).2 hc, Bool.not_true]
  rw [List.takeWhile_append_of_pos hall, List.dropWhile_append_of_pos hall, heq,
    List.takeWhile_cons, List.dropWhile_cons, hstop]
  simp

/-- A text begins with one break only. -/
theorem IsBreak.append_inj {rest rest' b b' : List Char} (h : IsBreak rest b) (h' : IsBreak rest' b')
    (heq : b ++ rest = b' ++ rest') : b = b' ∧ rest = rest' := by
  cases h with
  | pair =>
    cases h' with
    | pair => simpa using heq
    | single _ hcr =>
      obtain ⟨hc, hrest⟩ := List.cons.inj heq
      exact absurd (congrArg List.head? hrest).symm (hcr hc.symm)
  | single _ hcr =>
    cases h' with
    | pair =>
      obtain ⟨hc, hrest⟩ := List.cons.inj heq
      exact absurd (congrArg List.head? hrest) (hcr hc)
    | single => simpa using heq

theorem BreakFree.ne_append {text piece rest b : List Char} (h : BreakFree text)
    (hb : IsBreak rest b) : text ≠ piece ++ (b ++ rest) := by
  obtain ⟨c, more, hc, heq⟩ := hb.exists_eq_cons
  rintro rfl
  exact h c (by rw [heq]; simp) hc

/-- A text has one cut. -/
theorem Cut.unique {text : List Char} {pieces pieces' breaks breaks' : List (List Char)}
    (h : Cut text pieces breaks) (h' : Cut text pieces' breaks') :
    pieces' = pieces ∧ breaks' = breaks := by
  induction h generalizing pieces' breaks' with
  | @last piece hfree =>
    generalize htext : piece = text at h'
    cases h' with
    | last => exact ⟨rfl, rfl⟩
    | step _ hb _ => exact absurd htext (hfree.ne_append hb)
  | @step piece b rest pieces breaks hpiece hb _ ih =>
    generalize htext : piece ++ (b ++ rest) = text at h'
    cases h' with
    | last hfree => exact absurd htext.symm (hfree.ne_append hb)
    | @step piece' b' rest' _ _ hpiece' hb' h' =>
      obtain ⟨htake, hdrop⟩ := hpiece.takeWhile_append hb
      obtain ⟨htake', hdrop'⟩ := hpiece'.takeWhile_append hb'
      rw [htext] at htake hdrop
      obtain rfl : piece = piece' := htake.symm.trans htake'
      obtain ⟨rfl, rfl⟩ := hb.append_inj hb' (hdrop.symm.trans hdrop')
      obtain ⟨rfl, rfl⟩ := ih h'
      exact ⟨rfl, rfl⟩

/-! ## Splitting a normalised text -/

/-- Eight spaces for every tab. -/
def expandTabs (piece : List Char) : List Char :=
  piece.flatMap fun c => if c = '\t' then List.replicate 8 ' ' else [c]

/-- Nothing but spaces comes in for a tab. -/
theorem mem_expandTabs {piece : List Char} {c : Char} (h : c ∈ expandTabs piece) :
    c = ' ' ∨ c ∈ piece ∧ c ≠ '\t' := by
  obtain ⟨d, hd, hc⟩ := List.mem_flatMap.1 h
  by_cases htab : d = '\t'
  · rw [if_pos htab] at hc
    exact .inl (List.eq_of_mem_replicate hc)
  · rw [if_neg htab, List.mem_singleton] at hc
    subst hc
    exact .inr ⟨hd, htab⟩

theorem expandTabs_eq_nil_iff {piece : List Char} : expandTabs piece = [] ↔ piece = [] := by
  rw [expandTabs, List.flatMap_eq_nil_iff]
  refine ⟨fun h => List.eq_nil_iff_forall_not_mem.2 fun c hc => ?_, by rintro rfl; simp⟩
  have hnil := h c hc
  split at hnil <;> simp at hnil

/-- A piece stays without breaks when its tabs are expanded, and has no tabs then. -/
theorem BreakFree.forall_mem_expandTabs {piece : List Char} (h : BreakFree piece) :
    ∀ c ∈ expandTabs piece, c ∉ breakChars ∧ c ≠ '\t' := by
  intro c hc
  rcases mem_expandTabs hc with rfl | ⟨hmem, htab⟩
  · decide
  · exact ⟨h c hmem, htab⟩

theorem splitLines_eq_splitOnP (text : List Char) : splitLines text = text.splitOnP isLineBreak := by
  induction text with
  | nil => rfl
  | cons c rest ih =>
    rw [splitLines, List.splitOnP_cons_eq_if_modifyHead, ih]
    cases hpieces : rest.splitOnP isLineBreak with
    | nil => exact absurd hpieces (List.splitOnP_ne_nil _ _)
    | cons => rfl

/-- Normalising looks at no more than the character behind a carriage return. -/
theorem BreakFree.normalizeText_append {piece : List Char} (h : BreakFree piece)
    (rest : List Char) :
    normalizeText (piece ++ rest) = expandTabs piece ++ normalizeText rest := by
  induction piece with
  | nil => rfl
  | cons c more ih =>
    obtain ⟨hc, hmore⟩ := List.forall_mem_cons.1 h
    have hcr : ¬ (c = '\r' ∧ (more ++ rest).head? = some '\n') := by
      rintro ⟨rfl, -⟩
      exact hc (by decide)
    rw [List.cons_append, normalizeText, if_neg hcr, ih hmore]
    simp only [expandTabs, List.flatMap_cons, List.append_assoc]
    by_cases htab : c = '\t'
    · rw [if_pos htab, if_pos htab, tabWidth]
    · rw [if_neg htab, if_neg htab, List.singleton_append]

/-- Normalising makes a break one character that breaks lines. -/
theorem IsBreak.normalizeText_append {rest b : List Char} (h : IsBreak rest b) :
    ∃ c ∈ breakChars, normalizeText (b ++ rest) = c :: normalizeText rest := by
  cases h with
  | pair => exact ⟨'\n', by decide, rfl⟩
  | @single c hc hcr =>
    refine ⟨c, hc, ?_⟩
    have htab : c ≠ '\t' := by rintro rfl; exact absurd hc (by decide)
    rw [List.singleton_append, normalizeText, if_neg htab, if_neg fun hpair => hcr hpair.1 hpair.2]

/-- **Splitting a normalised text gives the pieces of the text with their tabs expanded.** -/
theorem Cut.splitLines_normalizeText {text : List Char} {pieces breaks : List (List Char)}
    (h : Cut text pieces breaks) : splitLines (normalizeText text) = pieces.map expandTabs := by
  have hsplit : ∀ {piece : List Char}, BreakFree piece →
      (expandTabs piece).splitOnP isLineBreak = [expandTabs piece] := fun hpiece =>
    List.splitOnP_eq_singleton fun c hc => (isLineBreak_eq_false_iff c).2 (hpiece.forall_mem_expandTabs c hc).1
  rw [splitLines_eq_splitOnP]
  induction h with
  | @last piece hpiece =>
    have hnormal := hpiece.normalizeText_append []
    rw [List.append_nil, normalizeText, List.append_nil] at hnormal
    rw [hnormal, hsplit hpiece]
    rfl
  | @step piece b rest pieces breaks hpiece hb _ ih =>
    obtain ⟨c, hc, hnormal⟩ := hb.normalizeText_append
    rw [hpiece.normalizeText_append, hnormal,
      List.splitOnP_append_cons _ _ ((isLineBreak_iff c).2 hc), hsplit hpiece, ih]
    rfl

example : splitLines (normalizeText ['a', '\r', '\r', '\n', '\t', '\u2028']) =
    [['a'], [], List.replicate 8 ' ', []] := by
  decide

end Lettering
