import Lettering.Layout.Block
import Lettering.Proofs.Layout.GlyphTable
import Mathlib.Data.List.Perm.Basic

/-!
# Every glyph is asked for once

The distinct glyphs of some runs stand in the order in which they first occur
(`pairwise_idxOf_eraseDups`), and a face is asked for exactly these, in this order and nothing else
(`GlyphTable.run_collect_recorded`). What else the runs say, how often a glyph occurs and on which
line, does not show in the table; and of a table, a layout sees only the glyphs of its own runs
(`TextBlock.layout_congr`). So a layout does not depend on what the table was made for
(`GlyphTable.collect_asks_once`).
-/

namespace Lettering

/-! ## The order of first occurrence -/

section

variable {α : Type} [BEq α] [LawfulBEq α]

/-- Leaving out others does not change which of two elements occurs first. -/
theorem idxOf_filter_lt_iff {p : α → Bool} {a b : α} (ha : p a = true) (hb : p b = true)
    (as : List α) : (as.filter p).idxOf a < (as.filter p).idxOf b ↔ as.idxOf a < as.idxOf b := by
  induction as with
  | nil => simp
  | cons first rest ih =>
    by_cases hp : p first = true
    · rw [List.filter_cons_of_pos hp, List.idxOf_cons, List.idxOf_cons, List.idxOf_cons,
        List.idxOf_cons]
      cases first == a <;> cases first == b <;> simp [ih]
    · have hne : ∀ c, p c = true → first ≠ c := by
        rintro c hc rfl
        exact hp hc
      rw [List.filter_cons_of_neg hp, List.idxOf_cons_ne _ (hne a ha),
        List.idxOf_cons_ne _ (hne b hb), Nat.succ_lt_succ_iff, ih]

/-- Without repeats, elements stand in the order in which they first occur. -/
theorem pairwise_idxOf_eraseDups (as : List α) :
    as.eraseDups.Pairwise fun a b => as.idxOf a < as.idxOf b := by
  match as with
  | [] => exact .nil
  | first :: rest =>
    have hshorter : (rest.filter fun other => !other == first).length < rest.length + 1 :=
      Nat.lt_succ_of_le (List.length_filter_le _ _)
    have hother : ∀ b ∈ (rest.filter fun other => !other == first).eraseDups,
        (!b == first) = true := fun b hb => (List.mem_filter.1 (List.mem_eraseDups.1 hb)).2
    have hne : ∀ b, (!b == first) = true → first ≠ b := by
      rintro b hb rfl
      simp at hb
    rw [List.eraseDups_cons, List.pairwise_cons]
    refine ⟨fun b hb => ?_, (pairwise_idxOf_eraseDups _).imp_of_mem fun {b c} hb hc hlt => ?_⟩
    · rw [List.idxOf_cons_self, List.idxOf_cons_ne _ (hne b (hother b hb))]
      exact Nat.succ_pos _
    · have hrest := idxOf_filter_lt_iff (p := fun other => !other == first) (hother b hb)
        (hother c hc) rest
      rw [List.idxOf_cons_ne _ (hne b (hother b hb)), List.idxOf_cons_ne _ (hne c (hother c hc)),
        Nat.succ_lt_succ_iff]
      exact hrest.1 hlt
termination_by as.length

theorem nodup_eraseDups (as : List α) : as.eraseDups.Nodup := by
  refine (pairwise_idxOf_eraseDups as).imp fun hlt => ?_
  rintro rfl
  exact Nat.lt_irrefl _ hlt

end

/-! ## What a layout sees of a table -/

section

variable {table table' : GlyphTable} (face : Face) (spacing : Spacing)

theorem PlacedLine.walk_congr {run : List GlyphId}
    (h : ∀ id ∈ run, table.get? id = table'.get? id) (pen : Pen) :
    walk face spacing table pen run = walk face spacing table' pen run := by
  induction run generalizing pen with
  | nil => rfl
  | cons id rest ih =>
    have hrest := ih fun other hother => h other (List.mem_cons_of_mem id hother)
    rw [walk, walk, h id List.mem_cons_self]
    cases table'.get? id with
    | none => exact hrest _
    | some glyph => simp only [hrest]

theorem PlacedLine.place_congr {run : List GlyphId}
    (h : ∀ id ∈ run, table.get? id = table'.get? id) (baseline : Float) :
    place face spacing table baseline run = place face spacing table' baseline run := by
  rw [place, place, walk_congr face spacing h]

theorem TextBlock.placeLines_congr {runs : List (List GlyphId)}
    (h : ∀ run ∈ runs, ∀ id ∈ run, table.get? id = table'.get? id) (step baseline : Float) :
    placeLines face spacing table step baseline runs =
      placeLines face spacing table' step baseline runs := by
  induction runs generalizing baseline with
  | nil => rfl
  | cons run rest ih =>
    rw [placeLines, placeLines, PlacedLine.place_congr face spacing (h run List.mem_cons_self),
      ih fun other hother => h other (List.mem_cons_of_mem run hother)]

/-- **Of a table, a layout sees only the glyphs of its runs.** -/
theorem TextBlock.layout_congr {runs : List (List GlyphId)}
    (h : ∀ id ∈ runs.flatten, table.get? id = table'.get? id) :
    layout face spacing table runs = layout face spacing table' runs := by
  have hruns : ∀ run ∈ runs, ∀ id ∈ run, table.get? id = table'.get? id :=
    fun run hrun id hid => h id (List.mem_flatten_of_mem hrun hid)
  have hascent : ascentOf table (runs.headD []) = ascentOf table' (runs.headD []) := by
    cases runs with
    | nil => rfl
    | cons run rest =>
      rw [List.headD_cons, ascentOf, ascentOf, List.filterMap_congr (hruns run List.mem_cons_self)]
  rw [layout, layout, hascent, placeLines_congr face spacing hruns]

end

namespace GlyphTable

/-- Ask a face for a glyph, and record for which and in which way. -/
def recorded (face : Face) (id : GlyphId) (gridFit : Bool) :
    StateM (List (GlyphId × Bool)) (Option RawGlyph) :=
  fun record => (face.loadGlyph id gridFit, record ++ [(id, gridFit)])

variable (face : Face) (runs : List (List GlyphId)) (gridFit : Bool)

theorem run_foldlM_recorded (ids : List GlyphId) (g : Gathered) (record : List (GlyphId × Bool)) :
    (ids.foldlM (fun (g : Gathered) id => do return g.learn id (← recorded face id gridFit)) g).run
        record =
      (ids.foldl (fun g id => g.learn id (face.loadGlyph id gridFit)) g,
        record ++ ids.map (·, gridFit)) := by
  induction ids generalizing g record with
  | nil => exact congrArg (Prod.mk g) (List.append_nil record).symm
  | cons id rest ih =>
    rw [List.foldlM_cons, List.foldl_cons, List.map_cons, List.append_cons, ← ih]
    rfl

/-- Making a table asks for the distinct glyphs of its runs, each once. -/
theorem run_collect_recorded (record : List (GlyphId × Bool)) :
    (collect (recorded face) runs gridFit).run record =
      (build face runs gridFit, record ++ (distinct runs).map (·, gridFit)) := by
  have hgathered := run_foldlM_recorded face gridFit (distinct runs) {} record
  rw [collect_eq, build_eq, StateT.run_bind, hgathered]
  rfl

variable {runs}

/-- Tables for the same glyphs hold the same, up to their order. -/
theorem entries_perm {other : List (List GlyphId)}
    (h : ∀ id, id ∈ other.flatten ↔ id ∈ runs.flatten) :
    (build face other gridFit).entries.Perm (build face runs gridFit).entries := by
  have hdistinct : (distinct other).Perm (distinct runs) := by
    refine (List.perm_ext_iff_of_nodup (nodup_eraseDups _) (nodup_eraseDups _)).2 fun id => ?_
    simp only [List.mem_eraseDups, h]
  rw [entries_build, entries_build]
  exact hdistinct.filterMap _

variable (runs)

/-- **Every glyph is asked for once, and nothing else about the runs shows.** Making a table asks
the face exactly for the glyphs that occur in the runs, also those that do not load, in the order of
their first occurrences and in the given way. The table then has the traced outlines of those that
load, and nothing for any other glyph.

Any runs with the same glyphs, in whatever order, number and grouping, give a table that holds the
same. And laying out the runs with the table of any runs that have at least their glyphs gives what
their own table gives. -/
theorem collect_asks_once :
    (∃ asked : List GlyphId, (∀ id, id ∈ asked ↔ id ∈ runs.flatten) ∧
      (asked.Pairwise fun a b => runs.flatten.idxOf a < runs.flatten.idxOf b) ∧
      (∀ record, (collect (recorded face) runs gridFit).run record =
        (build face runs gridFit, record ++ asked.map (·, gridFit))) ∧
      (build face runs gridFit).entries = asked.filterMap fun id =>
        (face.loadGlyph id gridFit).map fun raw => (id, Glyph.ofRaw raw)) ∧
    (∀ id, (build face runs gridFit).get? id =
      if id ∈ runs.flatten then (face.loadGlyph id gridFit).map Glyph.ofRaw else none) ∧
    (∀ other : List (List GlyphId), (∀ id, id ∈ other.flatten ↔ id ∈ runs.flatten) →
      (build face other gridFit).entries.Perm (build face runs gridFit).entries ∧
      ∀ id, (build face other gridFit).get? id = (build face runs gridFit).get? id) ∧
    ∀ prepared : List (List GlyphId), (∀ id ∈ runs.flatten, id ∈ prepared.flatten) →
      ∀ (shown : Face) (spacing : Spacing),
        TextBlock.layout shown spacing (build face prepared gridFit) runs =
          TextBlock.layout shown spacing (build face runs gridFit) runs := by
  refine ⟨⟨distinct runs, fun id => List.mem_eraseDups, pairwise_idxOf_eraseDups runs.flatten,
    run_collect_recorded face runs gridFit, entries_build face runs gridFit⟩,
    get?_build face runs gridFit, fun other hsame => ?_, fun prepared hall shown spacing => ?_⟩
  · refine ⟨entries_perm face gridFit hsame, fun id => ?_⟩
    simp only [get?_build, hsame]
  · refine TextBlock.layout_congr shown spacing fun id hid => ?_
    rw [get?_build, get?_build, if_pos (hall id hid), if_pos hid]

/-- Two glyphs of which one does not load, in other runs and among others. -/
theorem collect_asks_once_regrouped :
    let face : Face := {
      (default : Face) with loadGlyph := fun id _ => if id = 2 then none else some default }
    let runs := [[1, 2], [2, 1]]
    let other := [[2], [1, 1]]
    let prepared := [[3, 2], [1]]
    (∀ id, id ∈ other.flatten ↔ id ∈ runs.flatten) ∧
    (build face other true).entries.Perm (build face runs true).entries ∧
    (∀ id ∈ runs.flatten, id ∈ prepared.flatten) ∧
    TextBlock.layout face {} (build face prepared true) runs =
      TextBlock.layout face {} (build face runs true) runs := by
  intro face runs other prepared
  have hsame : ∀ id, id ∈ other.flatten ↔ id ∈ runs.flatten := by
    intro id
    simp only [other, runs, List.mem_flatten, List.mem_cons, List.not_mem_nil]
    grind
  have hall : ∀ id ∈ runs.flatten, id ∈ prepared.flatten := by decide
  obtain ⟨-, -, hregrouped, hprepared⟩ := collect_asks_once face runs true
  exact ⟨hsame, (hregrouped other hsame).1, hall, hprepared prepared hall face {}⟩

end GlyphTable

end Lettering
