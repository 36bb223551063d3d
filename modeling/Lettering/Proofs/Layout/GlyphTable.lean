import Lettering.Layout.GlyphTable
import Mathlib.Data.List.Basic

/-!
# What a glyph table holds

Going through some glyphs asks for those that are not known yet, each the first time that it comes
up (`Gathered.foldlM_ask`): a glyph is known from then on, whether it loads or not
(`Gathered.knows_learn`). So gathering is a plain walk along the distinct glyphs.

The table of a face then answers for the glyphs of its runs what the face answers, and for no
others (`GlyphTable.get?_build`).
-/

namespace Lettering

namespace Gathered

@[simp] theorem knows_empty (id : GlyphId) : ({} : Gathered).knows id = false := rfl

/-- A glyph is known once it has been asked for, loaded or not. -/
theorem knows_learn (g : Gathered) (id : GlyphId) (raw : Option RawGlyph) (other : GlyphId) :
    (g.learn id raw).knows other = (g.knows other || other == id) := by
  cases raw with
  | none =>
    simp only [knows, learn, List.contains_append, List.contains_cons, List.contains_nil,
      Bool.or_false, Bool.or_assoc]
  | some raw =>
    have hlookup : ((g.entries ++ [(id, Glyph.ofRaw raw)]).lookup other).isSome =
        ((g.entries.lookup other).isSome || other == id) := by
      rw [List.lookup_append]
      cases g.entries.lookup other with
      | none => cases h : other == id <;> simp [List.lookup_cons, h]
      | some glyph => simp
    rw [knows, learn, hlookup, knows, Bool.or_right_comm]

section

variable {m : Type → Type} [Monad m] (load : GlyphId → Bool → m (Option RawGlyph)) (gridFit : Bool)

theorem ask_of_knows {g : Gathered} {id : GlyphId} (h : g.knows id) :
    ask load gridFit g id = pure g := by
  rw [ask, if_pos h]

theorem ask_of_not_knows {g : Gathered} {id : GlyphId} (h : g.knows id = false) :
    ask load gridFit g id = do return g.learn id (← load id gridFit) := by
  rw [ask, if_neg (by simp [h])]

/-- **Going through some glyphs asks for each that is not known yet once**, when it first comes
up. -/
theorem foldlM_ask [LawfulMonad m] (ids : List GlyphId) (g : Gathered) :
    ids.foldlM (ask load gridFit) g =
      (ids.filter fun id => !g.knows id).eraseDups.foldlM
        (fun g id => do return g.learn id (← load id gridFit)) g := by
  induction ids generalizing g with
  | nil => rfl
  | cons id rest ih =>
    rw [List.foldlM_cons]
    by_cases hknows : g.knows id
    · rw [ask_of_knows load gridFit hknows, pure_bind, ih,
        List.filter_cons_of_neg (by simp [hknows])]
    · -- what loads or not, the rest is asked for without `id`
      have hrest : ∀ raw, (rest.filter fun other => !(g.learn id raw).knows other) =
          (rest.filter fun other => !g.knows other).filter fun other => !other == id := by
        intro raw
        rw [List.filter_filter]
        exact List.filter_congr fun other _ => by rw [knows_learn, Bool.not_or, Bool.and_comm]
      rw [Bool.not_eq_true] at hknows
      rw [ask_of_not_knows load gridFit hknows, List.filter_cons_of_pos (by simp [hknows]),
        List.eraseDups_cons, List.foldlM_cons, bind_assoc, bind_assoc]
      refine bind_congr fun raw => ?_
      rw [pure_bind, pure_bind, ih, hrest]

end

/-- What is learnt about some glyphs from a face is which of them load, and as what. -/
theorem entries_foldl_learn (load : GlyphId → Option RawGlyph) (ids : List GlyphId) (g : Gathered) :
    (ids.foldl (fun g id => g.learn id (load id)) g).entries =
      g.entries ++ ids.filterMap fun id => (load id).map fun raw => (id, Glyph.ofRaw raw) := by
  induction ids generalizing g with
  | nil => exact (List.append_nil _).symm
  | cons id rest ih =>
    rw [List.foldl_cons, ih]
    cases hload : load id with
    | none => simp [learn, hload]
    | some raw => simp [learn, hload]

end Gathered

namespace GlyphTable

/-- Looking up a key in a list of keys with their values. -/
theorem lookup_filterMap {α β : Type} [BEq α] [LawfulBEq α] (f : α → Option β)
    (a : α) (as : List α) :
    (as.filterMap fun a => (f a).map fun b => (a, b)).lookup a =
      if a ∈ as then f a else none := by
  induction as with
  | nil => rfl
  | cons first rest ih =>
    by_cases ha : a = first
    · subst ha
      cases hf : f a with
      | none => simp [hf, ih]
      | some b => simp [hf]
    · cases hf : f first with
      | none => simp [hf, ih, ha]
      | some b => simp [hf, ih, ha, List.lookup_cons, beq_false_of_ne ha]

/-- A table is collected from the distinct glyphs of its runs. -/
theorem collect_eq {m : Type → Type} [Monad m] [LawfulMonad m]
    (load : GlyphId → Bool → m (Option RawGlyph)) (runs : List (List GlyphId)) (gridFit : Bool) :
    collect load runs gridFit = do
      let gathered ← (distinct runs).foldlM
        (fun g id => do return g.learn id (← load id gridFit)) ({} : Gathered)
      return { entries := gathered.entries, gridFit } := by
  rw [collect, Gathered.foldlM_ask, List.filter_eq_self.2 fun id _ => by simp]
  rfl

variable (face : Face) (runs : List (List GlyphId)) (gridFit : Bool)

/-- A table of a face holds what is learnt from it about the distinct glyphs. -/
theorem build_eq : build face runs gridFit =
    { entries := ((distinct runs).foldl (fun g id => g.learn id (face.loadGlyph id gridFit))
        ({} : Gathered)).entries
      gridFit } := by
  simp only [build, collect_eq, pure_bind, List.foldlM_pure, Id.run_pure]

/-- The entries are the distinct glyphs that the face can load. -/
theorem entries_build : (build face runs gridFit).entries =
    (distinct runs).filterMap fun id =>
      (face.loadGlyph id gridFit).map fun raw => (id, Glyph.ofRaw raw) := by
  rw [build_eq]
  exact Gathered.entries_foldl_learn (face.loadGlyph · gridFit) (distinct runs) {}

/-- A table answers for the glyphs of its runs, and as the face does. -/
theorem get?_build (id : GlyphId) : (build face runs gridFit).get? id =
    if id ∈ runs.flatten then (face.loadGlyph id gridFit).map Glyph.ofRaw else none := by
  have hlookup := lookup_filterMap (fun id => (face.loadGlyph id gridFit).map Glyph.ofRaw) id
    (distinct runs)
  simp only [Option.map_map, Function.comp_def, distinct, List.mem_eraseDups] at hlookup
  rw [get?, entries_build]
  exact hlookup

end GlyphTable

end Lettering
