import Lettering.Proofs.Text.Segment

/-!
# Lines that are joined again

Normalising a text twice is not the same as doing it once: of two carriage returns before a line
feed, each pass takes one. But lines that come out of a segmenter have no breaks and no tabs left.
Such lines are `Segmenter.Settled`, and joined with line feeds they are cut where they were joined,
and nowhere else (`exists_cut_intercalate`). So a segmenter without a reorderer gives them back
(`Segmenter.Settled.segment?_joinLines`), with the spans that it would cut them into anyway.
-/

namespace Lettering

/-- The text of some lines, with line feeds between them. -/
def joinLines (lines : List Line) : String :=
  "\n".intercalate (lines.map (·.text))

theorem toList_joinLines (lines : List Line) :
    (joinLines lines).toList = ['\n'].intercalate (lines.map (·.chars)) := by
  rw [joinLines, String.toList_intercalate, List.map_map]
  exact congrArg _ (List.map_congr_left fun line _ => String.toList_ofList)

/-- Pieces without breaks are cut again where they are joined. -/
theorem exists_cut_intercalate {pieces : List (List Char)} (hne : pieces ≠ [])
    (hfree : ∀ piece ∈ pieces, BreakFree piece) :
    ∃ breaks, Cut (['\n'].intercalate pieces) pieces breaks := by
  induction pieces with
  | nil => exact absurd rfl hne
  | cons piece rest ih =>
    obtain ⟨hpiece, hrest⟩ := List.forall_mem_cons.1 hfree
    cases rest with
    | nil =>
      rw [List.intercalate_singleton]
      exact ⟨[], .last hpiece⟩
    | cons next more =>
      obtain ⟨breaks, hcut⟩ := ih (List.cons_ne_nil next more) hrest
      rw [List.intercalate_cons_cons, List.append_assoc]
      exact ⟨['\n'] :: breaks, .step hpiece (.single (by decide) nofun) hcut⟩

theorem expandTabs_of_notMem {piece : List Char} (h : '\t' ∉ piece) : expandTabs piece = piece := by
  induction piece with
  | nil => rfl
  | cons c rest ih =>
    obtain ⟨hc, hrest⟩ := not_or.1 (mt List.mem_cons.2 h)
    rw [expandTabs, List.flatMap_cons, if_neg (Ne.symm hc), ← expandTabs, ih hrest]
    rfl

namespace Segmenter

/-- Lines that a segmenter would not change: nothing in them breaks lines or is expanded, and their
spans are those that it cuts. -/
structure Settled (s : Segmenter) (lines : List Line) : Prop where
  nonempty : lines ≠ []
  breakFree : ∀ line ∈ lines, BreakFree line.chars
  tabFree : ∀ line ∈ lines, '\t' ∉ line.chars
  spans : ∀ line ∈ lines, line.spans = s.spans line.chars

variable {scripts : Option (Char → ScriptTag)}

/-- **Settled lines are given back** when they are joined with line feeds. -/
theorem Settled.segment?_joinLines {lines : List Line} (h : Settled ⟨none, scripts⟩ lines)
    (direction : Direction) : segment? ⟨none, scripts⟩ (joinLines lines) direction = .ok lines := by
  have hfree : ∀ piece ∈ lines.map (·.chars), BreakFree piece := by
    simpa only [List.forall_mem_map] using h.breakFree
  obtain ⟨breaks, hcut⟩ := exists_cut_intercalate (mt List.map_eq_nil_iff.1 h.nonempty) hfree
  rw [← toList_joinLines] at hcut
  refine (segment?_eq_ok_iff hcut direction _ lines).2 ?_
  rw [List.forall₂_map_left_iff, List.forall₂_same]
  intro line hline
  rw [expandTabs_of_notMem (h.tabFree line hline), order_none]
  exact ⟨rfl, h.spans line hline⟩

/-- What a segmenter without a reorderer makes of a text is settled. -/
theorem exists_settled (scripts : Option (Char → ScriptTag)) (text : String)
    (direction : Direction) :
    ∃ lines, segment? ⟨none, scripts⟩ text direction = .ok lines ∧
      Settled ⟨none, scripts⟩ lines := by
  obtain ⟨pieces, breaks, hcut⟩ := exists_cut text.toList
  obtain ⟨lines, hlines, hchars, hclean, -⟩ := exists_segment?_none hcut direction scripts
  have hspans := ((segment?_eq_ok_iff hcut direction _ lines).1 hlines).imp fun _ _ h => h.symm
  refine ⟨lines, hlines, ?_, fun line hline c hc => (hclean line hline c hc).1,
    fun line hline htab => (hclean line hline _ htab).2 rfl,
    ((List.forall₂_and_left lines pieces).1 hspans.flip).1⟩
  rintro rfl
  have hlength := congrArg List.length hchars
  rw [List.length_map, List.length_map, hcut.length_pieces] at hlength
  exact absurd hlength (Nat.zero_ne_add_one _)

/-- **Segmenting is idempotent.** Without a reorderer, whatever scripts characters are taken for,
every text is segmented; its lines, joined with line feeds and segmented again in any direction, are
the same lines with the same spans. -/
theorem segment_joined (scripts : Option (Char → ScriptTag)) (text : String)
    (direction : Direction) :
    ∃ lines, segment? ⟨none, scripts⟩ text direction = .ok lines ∧
      segment ⟨none, scripts⟩ text direction = lines ∧
      ∀ again : Direction, segment? ⟨none, scripts⟩ (joinLines lines) again = .ok lines ∧
        segment ⟨none, scripts⟩ (joinLines lines) again = lines := by
  obtain ⟨lines, hlines, hsettled⟩ := exists_settled scripts text direction
  refine ⟨lines, hlines, by rw [segment, hlines], fun again => ?_⟩
  have hagain := hsettled.segment?_joinLines again
  exact ⟨hagain, by rw [segment, hagain]⟩

/-- Normalising alone is not idempotent. -/
example : normalizeText ['\r', '\r', '\n'] = ['\r', '\n'] ∧
    normalizeText ['\r', '\n'] = ['\n'] := by
  decide

end Segmenter

end Lettering
