import Lettering.Proofs.Layer.Surface

/-!
# Writes in any order

A write looks at its own slot only: whether it takes effect, and what it then reports, is the same
after a write to another slot (`ParamWrite.changes_apply_apply`). It moves its own slot only, except
that a new family forgets the file; so two writes commute unless they are of the family and of the
file (`ParamWrite.apply_apply`). What is refused is refused at any time.

From two neighbours to any number of writes it is an induction on the list for the answers, and on
the permutation for the layer that is left (`TextLayer.edits_commute`).
-/

namespace Lettering

theorem Changes.union_comm (a b : Changes) : a ∪ b = b ∪ a := by
  ext c
  simp [Bool.or_comm]

theorem Changes.union_right_comm (a b c : Changes) : a ∪ b ∪ c = a ∪ c ∪ b := by
  rw [union_assoc, union_comm b, union_assoc]

theorem Point.toVec_injective : Function.Injective toVec := by
  rintro ⟨x, y⟩ ⟨x', y'⟩ h
  obtain ⟨rfl, rfl⟩ := Vec.mk.inj h
  rfl

/-- Parameters are the same if the same is read under every name. -/
theorem LayerParams.ext_value {p q : LayerParams} (h : ∀ n, p.value n = q.value n) : p = q := by
  cases p
  cases q
  simp only [LayerParams.mk.injEq]
  exact ⟨ParamValue.string.inj (h .text), ParamValue.string.inj (h .family),
    Slant.code_injective (ParamValue.integer.inj (h .style)),
    Weight.value_injective (ParamValue.integer.inj (h .weight)),
    Direction.code_injective (ParamValue.integer.inj (h .direction)),
    ParamValue.vector.inj (h .size), ParamValue.vector.inj (h .orient),
    Point.toVec_injective (ParamValue.vector.inj (h .origin)), ParamValue.real.inj (h .compress),
    ParamValue.real.inj (h .vcompress), ParamValue.string.inj (h .font),
    ParamValue.bool.inj (h .useKerning), ParamValue.bool.inj (h .gridFit)⟩

namespace ParamName

/-- Two parameters that can be written without regard to each other: the family and the file, which
a new family forgets, cannot. -/
structure Apart (m n : ParamName) : Prop where
  ne : m ≠ n
  family_font : ¬ (m = .family ∧ n = .font)
  font_family : ¬ (m = .font ∧ n = .family)

theorem Apart.symm {m n : ParamName} (h : m.Apart n) : n.Apart m where
  ne := h.ne.symm
  family_font hboth := h.font_family hboth.symm
  font_family hboth := h.family_font hboth.symm

end ParamName

/-! ## Two writes -/

namespace ParamWrite

variable {w w' : ParamWrite} (p : LayerParams)

theorem fst_apply (w : ParamWrite) : (w.apply p).1 = if w.isThere p then p else w.put p := by
  rcases w.apply_cases p with ⟨hthere, happly⟩ | ⟨hthere, happly⟩ <;> rw [happly, hthere] <;> rfl

theorem snd_apply (w : ParamWrite) :
    (w.apply p).2 = if w.isThere p then .empty else .only w.change := by
  rcases w.apply_cases p with ⟨hthere, happly⟩ | ⟨hthere, happly⟩ <;> rw [happly, hthere] <;> rfl

/-- A write leaves the slots apart from its own. -/
theorem value_apply_of_apart {n : ParamName} (h : w.target.Apart n) :
    (w.apply p).1.value n = p.value n := by
  rw [w.value_apply_of_ne p h.ne.symm, if_neg]
  rintro ⟨hfont, hfamily⟩
  exact h.family_font ⟨((family_apply_ne_iff p w).1 hfamily).1, hfont⟩

theorem isThere_apply (h : w.target.Apart w'.target) :
    w'.isThere (w.apply p).1 = w'.isThere p := by
  rw [isThere_eq_same, isThere_eq_same, value_apply_of_apart p h]

/-- What a write reports is the same after a write apart from it. -/
theorem changes_apply_apply (h : w.target.Apart w'.target) :
    (w'.apply (w.apply p).1).2 = (w'.apply p).2 := by
  rw [snd_apply, snd_apply, isThere_apply p h]

theorem put_put (h : w.target.Apart w'.target) : w'.put (w.put p) = w.put (w'.put p) := by
  refine LayerParams.ext_value fun n => ?_
  by_cases hn : n = w.target
  · subst hn
    rw [value_put_of_ne _ w' h.ne, value_put, value_put, if_neg h.font_family]
  · by_cases hn' : n = w'.target
    · subst hn'
      rw [value_put_of_ne _ w h.ne.symm, value_put, value_put, if_neg h.symm.font_family]
    · -- a third slot: only a family reaches it, and then the file is forgotten in either order
      rw [value_put_of_ne _ w' hn', value_put_of_ne _ w hn, value_put_of_ne _ w hn,
        value_put_of_ne _ w' hn']
      split_ifs <;> rfl

/-- **Writes apart from each other commute.** -/
theorem apply_apply (h : w.target.Apart w'.target) :
    (w'.apply (w.apply p).1).1 = (w.apply (w'.apply p).1).1 := by
  rw [fst_apply _ w', isThere_apply p h, fst_apply _ w, fst_apply _ w, isThere_apply p h.symm,
    fst_apply _ w']
  cases hw : w.isThere p <;> cases hw' : w'.isThere p
  · exact put_put p h
  all_goals rfl

end ParamWrite

/-! ## Names -/

/-- A name with the two names of the origin counted as one. -/
def slotName (name : String) : String := if name = "pos" then "origin" else name

/-- Two names whose parameters, if they have any, are apart. -/
def NamesApart (a b : String) : Prop :=
  ∀ m n, (a, m) ∈ ParamName.table → (b, n) ∈ ParamName.table → m.Apart n

theorem NamesApart.symm {a b : String} (h : NamesApart a b) : NamesApart b a :=
  fun m n hm hn => (h n m hn hm).symm

/-- Only the origin has two names. -/
theorem ParamName.slotName_eq_of_mem {a b : String} {n : ParamName} (ha : (a, n) ∈ table)
    (hb : (b, n) ∈ table) : slotName a = slotName b := by
  have hall : ∀ x ∈ table, ∀ y ∈ table, x.2 = y.2 → slotName x.1 = slotName y.1 := by decide
  exact hall _ ha _ hb rfl

theorem namesApart_of_slotName_ne {a b : String} (hslot : slotName a ≠ slotName b)
    (hab : ¬ (a = "family" ∧ b = "font")) (hba : ¬ (a = "font" ∧ b = "family")) :
    NamesApart a b := by
  have hfamily : ∀ {name}, (name, ParamName.family) ∈ ParamName.table → name = "family" := by
    simp [ParamName.table]
  have hfont : ∀ {name}, (name, ParamName.font) ∈ ParamName.table → name = "font" := by
    simp [ParamName.table]
  intro m n hm hn
  refine ⟨?_, ?_, ?_⟩
  · rintro rfl
    exact hslot (ParamName.slotName_eq_of_mem hm hn)
  · rintro ⟨rfl, rfl⟩
    exact hab ⟨hfamily hm, hfont hn⟩
  · rintro ⟨rfl, rfl⟩
    exact hba ⟨hfont hm, hfamily hn⟩

/-- Edits of different slots, and not of both the family and the file, are apart. -/
theorem pairwise_namesApart {edits : List (String × ParamValue)}
    (hslots : (edits.map fun e => slotName e.1).Nodup)
    (hfile : ¬ ("family" ∈ edits.map Prod.fst ∧ "font" ∈ edits.map Prod.fst)) :
    edits.Pairwise fun e e' => NamesApart e.1 e'.1 := by
  refine (List.pairwise_map.1 hslots).imp_of_mem fun {e e'} he he' hslot => ?_
  have hname := List.mem_map_of_mem (f := Prod.fst) he
  have hname' := List.mem_map_of_mem (f := Prod.fst) he'
  refine namesApart_of_slotName_ne hslot (fun hboth => hfile ?_) fun hboth => hfile ?_
  · exact ⟨hboth.1 ▸ hname, hboth.2 ▸ hname'⟩
  · exact ⟨hboth.2 ▸ hname', hboth.1 ▸ hname⟩

/-! ## Edits of a layer -/

namespace TextLayer

variable {F : Type}

/-- Write a value under a name, and give the answer. -/
def edit (e : String × ParamValue) : StateM (TextLayer F) (Except ParamError Changes) :=
  (store e.1 e.2).run

theorem run_edit (e : String × ParamValue) (l : TextLayer F) :
    (edit e).run l = (l.answerTo e.1 e.2, l.offered e.1 e.2) :=
  run_store l e.1 e.2

variable {e e' : String × ParamValue}

theorem put_put (l : TextLayer F) {w w' : ParamWrite} (h : w.target.Apart w'.target) :
    (l.put w).put w' = (l.put w').put w := by
  simp only [put, mark, ParamWrite.apply_apply l.params h,
    ParamWrite.changes_apply_apply l.params h, ParamWrite.changes_apply_apply l.params h.symm,
    Changes.union_right_comm l.pending]

/-- An edit answers the same after an edit apart from it. -/
theorem answerTo_offered (h : NamesApart e.1 e'.1) (l : TextLayer F) :
    (l.offered e.1 e.2).answerTo e'.1 e'.2 = l.answerTo e'.1 e'.2 := by
  cases hread : ParamWrite.read? e.1 e.2 with
  | error refusal => rw [offered_of_error hread]
  | ok w =>
    rw [offered_of_ok hread, answerTo, answerTo]
    cases hread' : ParamWrite.read? e'.1 e'.2 with
    | error refusal => rfl
    | ok w' =>
      have hapart := h _ _ (ParamWrite.of_read?_eq_ok hread).1 (ParamWrite.of_read?_eq_ok hread').1
      exact congrArg Except.ok (ParamWrite.changes_apply_apply l.params hapart)

/-- **Edits apart from each other commute.** -/
theorem offered_offered (h : NamesApart e.1 e'.1) (l : TextLayer F) :
    (l.offered e.1 e.2).offered e'.1 e'.2 = (l.offered e'.1 e'.2).offered e.1 e.2 := by
  cases hread : ParamWrite.read? e.1 e.2 with
  | error refusal => rw [offered_of_error hread, offered_of_error hread]
  | ok w =>
    cases hread' : ParamWrite.read? e'.1 e'.2 with
    | error refusal => rw [offered_of_error hread', offered_of_error hread']
    | ok w' =>
      have hapart := h _ _ (ParamWrite.of_read?_eq_ok hread).1 (ParamWrite.of_read?_eq_ok hread').1
      rw [offered_of_ok hread, offered_of_ok hread', offered_of_ok hread', offered_of_ok hread,
        put_put l hapart]

/-- Of edits apart from each other, each answers what it would answer alone. -/
theorem run_mapM_edit {edits : List (String × ParamValue)}
    (h : edits.Pairwise fun e e' => NamesApart e.1 e'.1) (l : TextLayer F) :
    (edits.mapM edit).run l =
      (edits.map fun e => l.answerTo e.1 e.2, edits.foldl (fun l e => l.offered e.1 e.2) l) := by
  induction edits generalizing l with
  | nil => rfl
  | cons e rest ih =>
    obtain ⟨hfirst, hrest⟩ := List.pairwise_cons.1 h
    have hanswers : (rest.map fun e' => (l.offered e.1 e.2).answerTo e'.1 e'.2) =
        rest.map fun e' => l.answerTo e'.1 e'.2 :=
      List.map_congr_left fun e' he' => answerTo_offered (hfirst e' he') l
    have htail := ih hrest (l.offered e.1 e.2)
    rw [hanswers] at htail
    rw [List.mapM_cons, StateT.run_bind, run_edit, List.map_cons, List.foldl_cons]
    exact congrArg (fun tail => (l.answerTo e.1 e.2 :: tail.1, tail.2)) htail

/-- **Edits in any order.** A list of edits, of which some may be refused and some may change
nothing, is carried out in two orders. If no two of the edits are of one slot, and there is not one
of the family beside one of the file, then each edit has the same answer in both, the one it would
have if it were the only edit; and both orders leave the same layer: the same parameters, the same
that waits for the next sync, and so the same for the sync to do. -/
theorem edits_commute (l : TextLayer F) {edits other : List (String × ParamValue)}
    (hperm : other.Perm edits) (hslots : (edits.map fun e => slotName e.1).Nodup)
    (hfile : ¬ ("family" ∈ edits.map Prod.fst ∧ "font" ∈ edits.map Prod.fst)) :
    ∃ last : TextLayer F,
      (edits.mapM edit).run l = (edits.map fun e => ((edit e).run l).1, last) ∧
      (other.mapM edit).run l = (other.map fun e => ((edit e).run l).1, last) := by
  have hapart := pairwise_namesApart hslots hfile
  have hother : other.Pairwise fun e e' => NamesApart e.1 e'.1 :=
    (hperm.pairwise_iff fun h => NamesApart.symm h).2 hapart
  have hanswer : ∀ e, ((edit e).run l).1 = l.answerTo e.1 e.2 := fun e =>
    congrArg Prod.fst (run_edit e l)
  simp only [hanswer]
  refine ⟨_, run_mapM_edit hapart l, ?_⟩
  -- an edit commutes with itself, and with those that are apart from it, on whichever side they are
  have hcomm := (hother.imp fun h => offered_offered (F := F) h).forall_of_forall_of_flip
    (fun _ _ _ => rfl) (hother.imp fun h l => (offered_offered h l).symm)
  rw [run_mapM_edit hother l, hperm.foldl_eq' (fun e he e' he' l => hcomm he he' l) l]

/-- A text, a style that there is not, a weight and a place that is no place, also from behind. -/
theorem edits_commute_from_behind :
    let l : TextLayer Unit := { pending := .empty }
    let edits := [("text", .string "Title"), ("style", .integer 7), ("weight", .integer 700),
      ("pos", .bool true)]
    let answers := [.ok (.only .text), .error (.outOfRange "style" 7), .ok (.only .font),
      .error (.typeMismatch "pos" .vector)]
    (edits.map fun e => slotName e.1).Nodup ∧
    ¬ ("family" ∈ edits.map Prod.fst ∧ "font" ∈ edits.map Prod.fst) ∧
    ∃ last : TextLayer Unit, (edits.mapM edit).run l = (answers, last) ∧
      (edits.reverse.mapM edit).run l = (answers.reverse, last) := by
  intro l edits answers
  have hslots : (edits.map fun e => slotName e.1).Nodup := by decide
  have hfile : ¬ ("family" ∈ edits.map Prod.fst ∧ "font" ∈ edits.map Prod.fst) := by decide
  have hanswers : (edits.map fun e => ((edit e).run l).1) = answers := rfl
  refine ⟨hslots, hfile, ?_⟩
  obtain ⟨last, h, h'⟩ := edits_commute l (List.reverse_perm edits) hslots hfile
  rw [List.map_reverse, hanswers] at h'
  exact ⟨last, hanswers ▸ h, h'⟩

end TextLayer

end Lettering
