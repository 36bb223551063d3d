import Lettering.Proofs.Sfnt.KernValues
import Lettering.Sfnt.Face
import Mathlib.Algebra.Ring.Int.Defs

/-!
# What kerning adds up to

A kerning table is a list of entries, of which only some are `Usable`: those that can be read, are
for pairs along the line, do not vary, and have values in one of the three forms that are used. The
adjustment of a pair is the sum of the values that the usable entries hold for it, in the order of
the table (`KernTable.Holds`), and no other entry has any influence (`KernPairs.ofTable_remove`).

The sum stops at the ends of the 32-bit range. Values have 16 bits, so that it takes more than 65535
of them to get there, and only then the order of the table would matter. A table with a short header
has no more entries than that (`KernTable.length_le_of_short`), so its sums are exact.
-/

namespace Lettering.Sfnt

/-! ## The entries that are usable -/

/-- The three forms of values that are used. -/
inductive KernValues.Used : KernValues → Prop
  | pairs (pairs : Array KernPair) : Used (.pairs pairs)
  | rows (body : ByteArray) (header : Nat) (left right : ClassOffsets) (array : Nat) :
      Used (.rows body header left right array)
  | classes (values : Array Int) (left right : Array Nat) (count : Nat) (index : Array Nat) :
      Used (.classes values left right count index)

theorem KernValues.used?_eq_some_iff {values used : KernValues} :
    values.used? = some used ↔ values = used ∧ used.Used := by
  constructor
  · intro h
    cases values <;> cases h <;> exact ⟨rfl, by constructor⟩
  · rintro ⟨rfl, _ | _ | _⟩ <;> rfl

namespace KernTable

/-- An entry of a table that has a part in kerning: it can be read, it is horizontal, not across the
stream and not variable, and its body can be read and holds values of a form that is used. -/
inductive Usable : Option KernSubtable → KernValues → Prop
  | intro {s : KernSubtable} {values : KernValues} (horizontal : s.horizontal = true)
      (inStream : s.crossStream = false) (fixed : s.variable_ = false)
      (body : s.values = some values) (form : values.Used) : Usable (some s) values

/-- The values that usable entries of a table hold for a pair, in the order of the table. -/
inductive Holds (left right : Nat) : KernTable → List Int → Prop
  | nil : Holds left right [] []
  | value {entry : Option KernSubtable} {values : KernValues} {v : Int} {rest : KernTable}
      {vs : List Int} : Usable entry values → values.get? left right = some v →
      Holds left right rest vs → Holds left right (entry :: rest) (v :: vs)
  | other {entry : Option KernSubtable} {rest : KernTable} {vs : List Int} :
      (∀ values, Usable entry values → values.get? left right = none) →
      Holds left right rest vs → Holds left right (entry :: rest) vs

/-- The values of an entry, if it is usable. -/
def usable? : Option KernSubtable → Option KernValues
  | none => none
  | some s => if s.counts then s.values >>= (·.used?) else none

theorem usable?_eq_some_iff {entry : Option KernSubtable} {values : KernValues} :
    usable? entry = some values ↔ Usable entry values := by
  constructor
  · intro h
    match entry with
    | none => cases h
    | some s =>
      rw [usable?] at h
      split at h
      · next hcounts =>
        obtain ⟨body, hbody, hused⟩ := Option.bind_eq_some_iff.1 h
        obtain ⟨rfl, hform⟩ := KernValues.used?_eq_some_iff.1 hused
        simp only [KernSubtable.counts, Bool.and_eq_true, Bool.not_eq_true'] at hcounts
        exact .intro hcounts.1.1 hcounts.1.2 hcounts.2 hbody hform
      · cases h
  · rintro ⟨horizontal, inStream, fixed, body, form⟩
    have hused := KernValues.used?_eq_some_iff.2 ⟨rfl, form⟩
    simp [usable?, KernSubtable.counts, horizontal, inStream, fixed, body, hused]

theorem usable?_eq_none_iff {entry : Option KernSubtable} :
    usable? entry = none ↔ ∀ values, ¬ Usable entry values := by
  simp only [Option.eq_none_iff_forall_ne_some, ne_eq, usable?_eq_some_iff]

/-- The value that an entry holds for a pair, if it is usable and holds one. -/
def held? (left right : Nat) (entry : Option KernSubtable) : Option Int :=
  usable? entry >>= (·.get? left right)

theorem held?_eq_some_iff {left right : Nat} {entry : Option KernSubtable} {v : Int} :
    held? left right entry = some v ↔
      ∃ values, Usable entry values ∧ values.get? left right = some v := by
  simp only [held?, Option.bind_eq_bind, Option.bind_eq_some_iff, usable?_eq_some_iff]

theorem held?_eq_none_iff {left right : Nat} {entry : Option KernSubtable} :
    held? left right entry = none ↔
      ∀ values, Usable entry values → values.get? left right = none := by
  simp only [held?, Option.bind_eq_bind, Option.bind_eq_none_iff, usable?_eq_some_iff]

theorem holds_iff {left right : Nat} {t : KernTable} {vs : List Int} :
    t.Holds left right vs ↔ vs = t.filterMap (held? left right) := by
  constructor
  · intro h
    induction h with
    | nil => rfl
    | value husable hvalue _ ih =>
      rw [List.filterMap_cons_some (held?_eq_some_iff.2 ⟨_, husable, hvalue⟩), ih]
    | other hnone _ ih => rw [List.filterMap_cons_none (held?_eq_none_iff.2 hnone), ih]
  · rintro rfl
    induction t with
    | nil => exact .nil
    | cons entry rest ih =>
      cases hheld : held? left right entry with
      | none =>
        rw [List.filterMap_cons_none hheld]
        exact .other (held?_eq_none_iff.1 hheld) ih
      | some v =>
        obtain ⟨values, husable, hvalue⟩ := held?_eq_some_iff.1 hheld
        rw [List.filterMap_cons_some hheld]
        exact .value husable hvalue ih

/-- All values that count have 16 bits. -/
def AllShort (t : KernTable) : Prop :=
  ∀ entry ∈ t, ∀ values, Usable entry values → values.AllShort

theorem short_of_mem_holds {left right : Nat} {t : KernTable} {vs : List Int} (hshort : t.AllShort)
    (h : t.Holds left right vs) : ∀ v ∈ vs, Short v := by
  rw [holds_iff.1 h]
  intro v hv
  obtain ⟨entry, hentry, hheld⟩ := List.mem_filterMap.1 hv
  obtain ⟨values, husable, hvalue⟩ := held?_eq_some_iff.1 hheld
  exact hshort entry hentry values husable left right v hvalue

/-! ## Tables from bytes -/

theorem ofShort?_of_mem {s : KernSubtable} {count : Nat} {b : ByteArray}
    (h : some s ∈ shortSubtables count b) : ∃ body, KernSubtable.ofShort? body = some s := by
  fun_induction shortSubtables count b with
  | case1 | case2 | case3 | case4 => cases h
  | case5 count b length hnonzero hlength body hbody ih =>
    rcases List.mem_cons.1 h with hfirst | hrest
    · exact ⟨_, hfirst.symm⟩
    · exact ih hrest

theorem ofLong?_of_mem {s : KernSubtable} {b : ByteArray} {i count : Nat}
    (h : some s ∈ longSubtables b i count) : ∃ body, KernSubtable.ofLong? body = some s := by
  fun_induction longSubtables b i count with
  | case1 | case2 | case3 | case5 => cases h
  | case4 i count hmore length hlength body hbody ih =>
    rcases List.mem_cons.1 h with hfirst | hrest
    · exact ⟨_, hfirst.symm⟩
    · exact ih hrest

theorem length_shortSubtables_le (count : Nat) (b : ByteArray) :
    (shortSubtables count b).length ≤ count := by
  fun_induction shortSubtables count b with
  | case1 | case2 | case3 | case4 => exact Nat.zero_le _
  | case5 count b length hnonzero hlength body hbody ih => exact Nat.succ_le_succ ih

theorem allShort_of_ofBytes? {b : ByteArray} {t : KernTable} (h : ofBytes? b = some t) :
    t.AllShort := by
  rintro _ hentry _ ⟨-, -, -, hvalues, -⟩
  obtain ⟨version, -, h⟩ := Option.bind_eq_some_iff.1 h
  split at h
  · obtain ⟨count, -, h⟩ := Option.bind_eq_some_iff.1 h
    cases h
    obtain ⟨body, hbody⟩ := ofShort?_of_mem hentry
    exact KernSubtable.allShort_of_ofShort? hbody hvalues
  · obtain ⟨count, -, h⟩ := Option.bind_eq_some_iff.1 h
    cases h
    obtain ⟨body, hbody⟩ := ofLong?_of_mem hentry
    exact KernSubtable.allShort_of_ofLong? hbody hvalues

/-- A short header counts its entries with 16 bits. -/
theorem length_le_of_short {b : ByteArray} {t : KernTable} (h : ofBytes? b = some t)
    (hshort : u16? b 0 = some 0) : t.length ≤ 0xFFFF := by
  obtain ⟨version, hversion, h⟩ := Option.bind_eq_some_iff.1 h
  obtain rfl : version = 0 := Option.some.inj (hversion.symm.trans hshort)
  rw [if_pos rfl] at h
  obtain ⟨count, hcount, h⟩ := Option.bind_eq_some_iff.1 h
  cases h
  have := u16?_lt hcount
  have := length_shortSubtables_le count (b.extract 4 b.size)
  omega

end KernTable

/-! ## The sum -/

namespace KernPairs

theorem ofTable_eq (t : KernTable) : ofTable t = ⟨t.filterMap KernTable.usable?⟩ := by
  rw [ofTable, List.filterMap_filter, List.filterMap_filterMap]
  congr 2
  funext entry
  cases entry <;> rfl

/-- An entry that is not usable may as well not be there. -/
theorem ofTable_remove (before after : KernTable) {entry : Option KernSubtable}
    (h : ∀ values, ¬ KernTable.Usable entry values) :
    ofTable (before ++ entry :: after) = ofTable (before ++ after) := by
  rw [ofTable_eq, ofTable_eq, List.filterMap_append, List.filterMap_append,
    List.filterMap_cons_none (KernTable.usable?_eq_none_iff.2 h)]

theorem pair_ofTable {left right : Nat} {t : KernTable} {vs : List Int}
    (h : t.Holds left right vs) : (ofTable t).pair left right = vs.foldl addWithin 0 := by
  rw [KernTable.holds_iff.1 h, pair, ofTable_eq, List.filterMap_filterMap]
  rfl

theorem pair_of_isEmpty {k : KernPairs} (h : k.isEmpty = true) (left right : Nat) :
    k.pair left right = 0 := by
  have hnone : k.subtables.filterMap (·.get? left right) = [] :=
    List.filterMap_eq_nil_iff.2 fun values hvalues =>
      values.get?_eq_none_of_isEmpty (List.all_eq_true.1 h values hvalues) left right
  rw [pair, hnone]
  rfl

/-- As long as the steps still to come cannot leave the 32-bit range, the sum is exact. -/
theorem foldl_addWithin {vs : List Int} (hshort : ∀ v ∈ vs, Short v) {start : Int}
    (hlow : least ≤ start - 0x8000 * vs.length) (hhigh : start + 0x8000 * vs.length ≤ greatest) :
    vs.foldl addWithin start = start + vs.sum := by
  induction vs generalizing start with
  | nil => simp
  | cons v rest ih =>
    obtain ⟨⟨hmin, hmax⟩, hrest⟩ := List.forall_mem_cons.1 hshort
    simp only [least, greatest, List.length_cons] at hlow hhigh
    have hstep : addWithin start v = start + v := by
      simp only [addWithin, least, greatest]
      omega
    rw [List.foldl_cons, hstep, ih hrest, List.sum_cons, Int.add_assoc]
    · simp only [least]
      omega
    · simp only [greatest]
      omega

theorem pair_eq_sum {left right : Nat} {t : KernTable} {vs : List Int}
    (h : t.Holds left right vs) (hshort : t.AllShort) (hlength : t.length ≤ 0xFFFF) :
    (ofTable t).pair left right = vs.sum := by
  have hcount : vs.length ≤ t.length := by
    rw [KernTable.holds_iff.1 h]
    exact List.length_filterMap_le _ _
  -- 65535 steps of at most 32768 stay below the greatest 32-bit number
  rw [pair_ofTable h, foldl_addWithin (KernTable.short_of_mem_holds hshort h), Int.zero_add]
  · simp only [least]
    omega
  · simp only [greatest]
    omega

/-- Kerning that holds nothing for sure is not worth looking up. -/
theorem lookUp_of_isEmpty {kern : Option KernPairs} (h : (kern.any fun k => !k.isEmpty) = false)
    (left right : GlyphId) : lookUp kern left right = 0 := by
  cases kern with
  | none => rfl
  | some k =>
    have hempty : k.isEmpty = true := by simpa using h
    rw [lookUp, pair_of_isEmpty hempty]
    rfl

theorem kerning_of_faceOfBytes {bytes : ByteArray} {index buffer : Nat} {face : Face}
    (h : faceOfBytes bytes index buffer = .ok face) :
    ∃ c, Container.ofBytes bytes index = .ok c ∧
      ∀ left right mode,
        face.kerning left right mode = lookUp (ofContainer? c) left right ∧
        (face.hasKerning = false → lookUp (ofContainer? c) left right = 0) := by
  unfold faceOfBytes at h
  split at h
  · cases h
  · next c hc =>
    cases h
    refine ⟨c, hc, fun left right mode => ⟨?_, fun hno => lookUp_of_isEmpty hno left right⟩⟩
    -- a face without kerning does not look it up
    split
    · rfl
    · next hno => exact (lookUp_of_isEmpty (Bool.not_eq_true _ ▸ hno) left right).symm

/-- **Kerning adds up.** Of any kerning table:

* the adjustment of a pair is the sum, within 32 bits, of the values that the usable entries hold
  for it in the order of the table, and zero if there are none;
* with at most 65535 entries and values of 16 bits, the sum is exact;
* an entry that is not usable can be put in or taken out anywhere.

Tables that are read from bytes have values of 16 bits, and with a short header no more than 65535
entries. Kerning that says of itself that it is empty adjusts no pair. So a face answers every pair
as its kerning does, also if it does not look because it has noted that there is none. -/
theorem kerning_adds_up :
    (∀ (t : KernTable) (left right : Nat),
      ∃ vs, (∀ vs', t.Holds left right vs' ↔ vs' = vs) ∧
        (ofTable t).pair left right = vs.foldl addWithin 0 ∧
        (t.AllShort → t.length ≤ 0xFFFF → (ofTable t).pair left right = vs.sum)) ∧
    (∀ (before after : KernTable) (entry : Option KernSubtable),
      (∀ values, ¬ KernTable.Usable entry values) →
      ofTable (before ++ entry :: after) = ofTable (before ++ after)) ∧
    (∀ (b : ByteArray) (t : KernTable), KernTable.ofBytes? b = some t →
      t.AllShort ∧ (u16? b 0 = some 0 → t.length ≤ 0xFFFF)) ∧
    (∀ k : KernPairs, k.isEmpty = true → ∀ left right, k.pair left right = 0) ∧
    (∀ (bytes : ByteArray) (index buffer : Nat) (face : Face),
      faceOfBytes bytes index buffer = .ok face →
      ∃ c, Container.ofBytes bytes index = .ok c ∧
        ∀ left right mode,
          face.kerning left right mode = lookUp (ofContainer? c) left right ∧
          (face.hasKerning = false → lookUp (ofContainer? c) left right = 0)) := by
  refine ⟨fun t left right => ?_, fun before after _ h => ofTable_remove before after h,
    fun b t h => ⟨KernTable.allShort_of_ofBytes? h, KernTable.length_le_of_short h⟩,
    fun k h => pair_of_isEmpty h, fun bytes index buffer face h => kerning_of_faceOfBytes h⟩
  have hholds : t.Holds left right _ := KernTable.holds_iff.2 rfl
  exact ⟨_, fun _ => KernTable.holds_iff, pair_ofTable hholds, pair_eq_sum hholds⟩

/-- Two usable entries with an unreadable one, one across the stream and a machine in between. -/
theorem kerning_adds_up_mixed :
    let entry (crossStream : Bool) (values : KernValues) : Option KernSubtable :=
      some { horizontal := true, crossStream, variable_ := false, values := some values }
    let pairs (v : Int) : KernValues := .pairs #[⟨1, 2, v⟩]
    let t : KernTable := [entry false (pairs (-10)), none, entry true (pairs (-7)),
      entry false (.states .empty), entry false (pairs (-5))]
    t.AllShort ∧ t.length ≤ 0xFFFF ∧ t.Holds 1 2 [-10, -5] ∧ (ofTable t).pair 1 2 = -15 := by
  intro entry pairs t
  have hpairs : ∀ v, Short v → (pairs v).AllShort := fun v hv =>
    KernValues.allShort_pairs (by simpa using hv)
  have hshort : t.AllShort := by
    rintro _ hentry values ⟨-, -, -, hbody, -⟩
    simp only [t, entry, List.mem_cons, Option.some.injEq, reduceCtorEq, List.not_mem_nil, or_false,
      false_or] at hentry
    rcases hentry with rfl | rfl | rfl | rfl <;> cases hbody
    · exact hpairs _ (by decide)
    · exact hpairs _ (by decide)
    · nofun
    · exact hpairs _ (by decide)
  have hholds : t.Holds 1 2 [-10, -5] := KernTable.holds_iff.2 (by decide +kernel)
  obtain ⟨vs, hvs, -, hsum⟩ := kerning_adds_up.1 t 1 2
  obtain rfl := (hvs _).1 hholds
  exact ⟨hshort, by decide, hholds, hsum hshort (by decide)⟩

end KernPairs

end Lettering.Sfnt
