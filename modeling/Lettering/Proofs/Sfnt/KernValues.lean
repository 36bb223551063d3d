import Lettering.Sfnt.Kern

/-!
# The values of a kerning subtable

What a subtable answers for a pair comes from 16-bit numbers in its body, whatever its form, so that
it is a `Short` number (`KernValues.allShort_of_valuesOf?`). A search among sorted pairs halves what
is in question until one place is left (`KernValues.searchPlace_eq`); so if the pairs are in order,
it answers what is listed (`KernValues.get?_pairs_eq_some_iff`). A subtable that says that it is
empty has no answer for any pair (`KernValues.get?_eq_none_of_isEmpty`).
-/

namespace Lettering.Sfnt

/-! ## Numbers of 16 bits -/

/-- A number that has 16 bits with its sign. -/
def Short (v : Int) : Prop := -0x8000 ≤ v ∧ v < 0x8000

instance (v : Int) : Decidable (Short v) := inferInstanceAs (Decidable (_ ∧ _))

theorem u8?_lt {b : ByteArray} {i n : Nat} (h : u8? b i = some n) : n < 0x100 := by
  rw [u8?] at h
  split at h
  · cases h
    exact UInt8.toNat_lt _
  · cases h

theorem u16?_lt {b : ByteArray} {i n : Nat} (h : u16? b i = some n) : n < 0x10000 := by
  obtain ⟨high, hhigh, h⟩ := Option.bind_eq_some_iff.1 h
  obtain ⟨low, hlow, h⟩ := Option.bind_eq_some_iff.1 h
  have := u8?_lt hhigh
  have := u8?_lt hlow
  cases h
  omega

theorem u16s?_lt {b : ByteArray} {i count : Nat} {ns : List Nat} (h : u16s? b i count = some ns) :
    ∀ n ∈ ns, n < 0x10000 := by
  induction count generalizing i ns with
  | zero =>
    cases h
    nofun
  | succ count ih =>
    obtain ⟨first, hfirst, h⟩ := Option.bind_eq_some_iff.1 h
    obtain ⟨rest, hrest, h⟩ := Option.bind_eq_some_iff.1 h
    cases h
    exact List.forall_mem_cons.2 ⟨u16?_lt hfirst, ih hrest⟩

theorem short_signed16 {n : Nat} (h : n < 0x10000) : Short (signed16 n) := by
  rw [signed16]
  split <;> constructor <;> omega

theorem short_i16? {b : ByteArray} {i : Nat} {v : Int} (h : i16? b i = some v) : Short v := by
  obtain ⟨n, hn, rfl⟩ := Option.map_eq_some_iff.1 h
  exact short_signed16 (u16?_lt hn)

/-! ## The values of one subtable -/

namespace KernValues

/-- What a search finds is there. -/
theorem mem_of_searchPairs {pairs : Array KernPair} {key : Nat} {v : Int}
    (h : searchPairs pairs key = some v) : ∃ p ∈ pairs, p.key = key ∧ p.value = v := by
  obtain ⟨p, hp, h⟩ := Option.bind_eq_some_iff.1 h
  split at h
  · next hkey =>
    cases h
    exact ⟨p, Array.mem_of_getElem? hp, hkey, rfl⟩
  · cases h

theorem any_key_le_iff {pairs : Array KernPair} {i key : Nat} (hi : i < pairs.size) :
    (pairs[i]?.any fun p => p.key ≤ key) = true ↔ pairs[i].key ≤ key := by
  rw [Array.getElem?_eq_getElem hi, Option.any_some, decide_eq_true_iff]

section

variable {pairs : Array KernPair} (hsorted : pairs.toList.Pairwise fun p q => p.key < q.key)

include hsorted

theorem key_le_key_iff {i j : Nat} (hi : i < pairs.size) (hj : j < pairs.size) :
    pairs[i].key ≤ pairs[j].key ↔ i ≤ j := by
  have hlt : ∀ {i j : Nat} (hi : i < pairs.size) (hj : j < pairs.size), i < j →
      pairs[i].key < pairs[j].key := fun hi hj => List.pairwise_iff_getElem.1 hsorted _ _ hi hj
  constructor
  · intro hle
    refine Nat.le_of_not_lt fun hlater => ?_
    exact absurd (hlt hj hi hlater) (Nat.not_lt.2 hle)
  · intro hle
    rcases Nat.lt_or_eq_of_le hle with hearlier | rfl
    · exact Nat.le_of_lt (hlt hi hj hearlier)
    · exact Nat.le_refl _

/-- In pairs that are in order, the search ends at the place of the key, which stays between `base`
and `base + size`. -/
theorem searchPlace_eq {place key : Nat} (hplace : place < pairs.size)
    (hkey : pairs[place].key = key) {base size : Nat} (hbase : base ≤ place)
    (hsize : place < base + size) (hend : base + size ≤ pairs.size) :
    searchPlace pairs key base size = place := by
  fun_induction searchPlace pairs key base size with
  | case1 base size hmore middle atMost ih =>
    have hmiddle : middle < pairs.size := by omega
    have hatMost : atMost = true ↔ middle ≤ place := by
      rw [← key_le_key_iff hsorted hmiddle hplace, hkey]
      exact any_key_le_iff hmiddle
    by_cases hside : atMost = true
    · have := hatMost.1 hside
      rw [dif_pos hside] at ih
      rw [if_pos hside]
      exact ih (by omega) (by omega) (by omega)
    · have := mt hatMost.2 hside
      rw [dif_neg hside] at ih
      rw [if_neg hside]
      exact ih hbase (by omega) (by omega)
  | case2 base size hmore => omega

theorem searchPairs_eq_some_iff {key : Nat} {v : Int} :
    searchPairs pairs key = some v ↔ ∃ p ∈ pairs, p.key = key ∧ p.value = v := by
  refine ⟨mem_of_searchPairs, ?_⟩
  rintro ⟨p, hp, hkey, rfl⟩
  obtain ⟨place, hplace, rfl⟩ := Array.mem_iff_getElem.1 hp
  have hfound : searchPlace pairs key 0 pairs.size = place :=
    searchPlace_eq hsorted hplace hkey (Nat.zero_le _) (by omega) (by omega)
  rw [searchPairs, hfound, Array.getElem?_eq_getElem hplace, Option.bind_eq_bind, Option.bind_some,
    if_pos hkey]

/-- A subtable with pairs in order holds the values that it lists. -/
theorem get?_pairs_eq_some_iff (hright : ∀ p ∈ pairs, p.right < 0x10000) {left right : Nat}
    (hl : left < 0x10000) (hr : right < 0x10000) {v : Int} :
    (KernValues.pairs pairs).get? left right = some v ↔ ⟨left, right, v⟩ ∈ pairs := by
  rw [get?, if_pos ⟨hl, hr⟩, searchPairs_eq_some_iff hsorted]
  constructor
  · rintro ⟨⟨l, r, _⟩, hp, hkey, rfl⟩
    have := hright _ hp
    obtain ⟨rfl, rfl⟩ : l = left ∧ r = right := by
      simp only [KernPair.key] at hkey this
      omega
    exact hp
  · exact fun hp => ⟨_, hp, rfl, rfl⟩

end

/-- A subtable that holds no pairs for sure holds no value. -/
theorem get?_eq_none_of_isEmpty {values : KernValues} (h : values.isEmpty = true)
    (left right : Nat) : values.get? left right = none := by
  cases values with
  | pairs ps =>
    have hnone : ∀ key, searchPairs ps key = none := by
      refine fun key => Option.eq_none_iff_forall_ne_some.2 fun v hv => ?_
      obtain ⟨p, hp, -⟩ := mem_of_searchPairs hv
      rw [Array.isEmpty_iff.1 h] at hp
      exact Array.not_mem_empty p hp
    rw [get?, hnone]
    exact ite_self _
  | states body => rfl
  | rows body header l r array => cases h
  | classes values l r count index => cases h

/-- All values have 16 bits. -/
def AllShort (values : KernValues) : Prop :=
  ∀ left right v, values.get? left right = some v → Short v

theorem allShort_pairs {pairs : Array KernPair} (h : ∀ p ∈ pairs, Short p.value) :
    (KernValues.pairs pairs).AllShort := by
  intro left right v hv
  rw [get?] at hv
  split at hv
  · obtain ⟨p, hp, -, rfl⟩ := mem_of_searchPairs hv
    exact h p hp
  · cases hv

theorem allShort_rows (body : ByteArray) (header : Nat) (left right : ClassOffsets) (array : Nat) :
    (KernValues.rows body header left right array).AllShort := by
  intro l r v hv
  rw [get?] at hv
  split at hv
  · exact short_i16? hv
  · cases hv

theorem allShort_classes {values : Array Int} (h : ∀ v ∈ values, Short v)
    (left right : Array Nat) (count : Nat) (index : Array Nat) :
    (KernValues.classes values left right count index).AllShort := by
  intro l r v hv
  obtain ⟨_, -, hv⟩ := Option.bind_eq_some_iff.1 hv
  obtain ⟨_, -, hv⟩ := Option.bind_eq_some_iff.1 hv
  obtain ⟨_, -, hv⟩ := Option.bind_eq_some_iff.1 hv
  exact h v (Array.mem_of_getElem? hv)

theorem short_of_readPairs {b : ByteArray} {i count : Nat} {ps : List KernPair}
    (h : readPairs b i count = some ps) : ∀ p ∈ ps, Short p.value := by
  induction count generalizing i ps with
  | zero =>
    cases h
    nofun
  | succ count ih =>
    obtain ⟨left, -, h⟩ := Option.bind_eq_some_iff.1 h
    obtain ⟨right, -, h⟩ := Option.bind_eq_some_iff.1 h
    obtain ⟨value, hvalue, h⟩ := Option.bind_eq_some_iff.1 h
    obtain ⟨rest, hrest, h⟩ := Option.bind_eq_some_iff.1 h
    cases h
    exact List.forall_mem_cons.2 ⟨short_i16? hvalue, ih hrest⟩

theorem allShort_of_pairsOfBytes? {body : ByteArray} {values : KernValues}
    (h : pairsOfBytes? body = some values) : values.AllShort := by
  obtain ⟨count, -, h⟩ := Option.bind_eq_some_iff.1 h
  obtain ⟨ps, hps, h⟩ := Option.bind_eq_some_iff.1 h
  cases h
  exact allShort_pairs fun p hp => short_of_readPairs hps p (by simpa using hp)

theorem allShort_of_rowsOfBytes? {body : ByteArray} {header : Nat} {values : KernValues}
    (h : rowsOfBytes? body header = some values) : values.AllShort := by
  obtain ⟨width, -, h⟩ := Option.bind_eq_some_iff.1 h
  obtain ⟨left, -, h⟩ := Option.bind_eq_some_iff.1 h
  obtain ⟨right, -, h⟩ := Option.bind_eq_some_iff.1 h
  obtain ⟨array, -, h⟩ := Option.bind_eq_some_iff.1 h
  split at h
  · cases h
  · obtain ⟨leftOffsets, -, h⟩ := Option.bind_eq_some_iff.1 h
    obtain ⟨rightOffsets, -, h⟩ := Option.bind_eq_some_iff.1 h
    cases h
    exact allShort_rows _ _ _ _ _

theorem allShort_of_classesOfBytes? {body : ByteArray} {values : KernValues}
    (h : classesOfBytes? body = some values) : values.AllShort := by
  obtain ⟨glyphs, -, h⟩ := Option.bind_eq_some_iff.1 h
  obtain ⟨count, -, h⟩ := Option.bind_eq_some_iff.1 h
  obtain ⟨leftCount, -, h⟩ := Option.bind_eq_some_iff.1 h
  obtain ⟨rightCount, -, h⟩ := Option.bind_eq_some_iff.1 h
  obtain ⟨flags, -, h⟩ := Option.bind_eq_some_iff.1 h
  obtain ⟨numbers, hnumbers, h⟩ := Option.bind_eq_some_iff.1 h
  obtain ⟨left, -, h⟩ := Option.bind_eq_some_iff.1 h
  obtain ⟨right, -, h⟩ := Option.bind_eq_some_iff.1 h
  obtain ⟨index, -, h⟩ := Option.bind_eq_some_iff.1 h
  cases h
  refine allShort_classes (fun v hv => ?_) _ _ _ _
  obtain ⟨n, hn, rfl⟩ := List.mem_map.1 (List.mem_toArray.1 hv)
  exact short_signed16 (u16s?_lt hnumbers n hn)

/-- Whatever the format of a body, the values that are read from it have 16 bits. -/
theorem allShort_of_valuesOf? {format header : Nat} {body : ByteArray} {values : KernValues}
    (h : KernSubtable.valuesOf? format header body = some values) : values.AllShort := by
  unfold KernSubtable.valuesOf? at h
  split at h
  · exact allShort_of_pairsOfBytes? h
  · cases h
    nofun
  · exact allShort_of_rowsOfBytes? h
  · exact allShort_of_classesOfBytes? h
  · cases h

end KernValues

theorem KernSubtable.allShort_of_ofShort? {b : ByteArray} {s : KernSubtable}
    (h : ofShort? b = some s) {values : KernValues} (hvalues : s.values = some values) :
    values.AllShort := by
  obtain ⟨coverage, -, h⟩ := Option.bind_eq_some_iff.1 h
  obtain ⟨body, -, h⟩ := Option.bind_eq_some_iff.1 h
  cases h
  exact KernValues.allShort_of_valuesOf? hvalues

theorem KernSubtable.allShort_of_ofLong? {b : ByteArray} {s : KernSubtable}
    (h : ofLong? b = some s) {values : KernValues} (hvalues : s.values = some values) :
    values.AllShort := by
  obtain ⟨coverage, -, h⟩ := Option.bind_eq_some_iff.1 h
  obtain ⟨tuple, -, h⟩ := Option.bind_eq_some_iff.1 h
  obtain ⟨body, -, h⟩ := Option.bind_eq_some_iff.1 h
  cases h
  exact KernValues.allShort_of_valuesOf? hvalues

end Lettering.Sfnt
