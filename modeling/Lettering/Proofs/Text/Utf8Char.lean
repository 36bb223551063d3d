import Lettering.Text.Utf8
import Mathlib.Data.List.Forall2

/-!
# The bytes of one character

A leading byte asks for as many bytes as its character has behind it, each in a range. `Leads` says
what the table of leading bytes holds, by the number of bytes. From it follow both directions of the
reading of one character: bytes that fit a leading byte are how a character is written
(`encodeChar_of_fits`), and every character is written so (`fits_of_encodeChar`).

The front of a byte sequence is then a character exactly if the sequence begins with the bytes of
one (`front_of_encodeChar`, `eq_encodeChar_of_front`), and what is left of a character that was cut
is one malformed sequence, whatever character follows (`front_of_cut`).
-/

namespace Lettering.Utf8

theorem ByteRange.contains_iff {r : ByteRange} {b : UInt8} :
    r.contains b ↔ r.low.toNat ≤ b.toNat ∧ b.toNat ≤ r.high.toNat := by
  simp [contains, UInt8.le_iff_toNat_le]

/-- Bytes that fit ranges one by one. -/
abbrev Fits (ranges : List ByteRange) (bytes : List UInt8) : Prop :=
  List.Forall₂ (fun r b => r.contains b) ranges bytes

/-- A code with the bits of a continuation byte behind it. -/
def extend (code : Nat) (b : UInt8) : Nat := code * 64 + (b.toNat - 0x80)

/-! ## The bytes behind a leading byte -/

theorem follow_cons {r : ByteRange} {b : UInt8} (h : r.contains b) (code : Nat)
    (ranges : List ByteRange) (bytes : List UInt8) :
    follow code (r :: ranges) (b :: bytes) = follow (extend code b) ranges bytes :=
  if_pos h

theorem follow_of_fits {ranges : List ByteRange} {tail : List UInt8} (h : Fits ranges tail)
    (code : Nat) (rest : List UInt8) :
    follow code ranges (tail ++ rest) = (some (Char.ofNat (tail.foldl extend code)), rest) := by
  induction h generalizing code with
  | nil => rfl
  | cons hb _ ih => rw [List.cons_append, follow_cons hb, ih, List.foldl_cons]

theorem fits_of_follow {code : Nat} {ranges : List ByteRange} {bytes rest : List UInt8} {c : Char}
    (h : follow code ranges bytes = (some c, rest)) :
    ∃ tail, Fits ranges tail ∧ bytes = tail ++ rest ∧ c = Char.ofNat (tail.foldl extend code) := by
  fun_induction follow code ranges bytes with
  | case1 code bytes =>
    obtain ⟨hc, rfl⟩ := Prod.mk.inj h
    exact ⟨[], .nil, rfl, (Option.some.inj hc).symm⟩
  | case2 => cases h
  | case3 code r ranges b bytes hb ih =>
    obtain ⟨tail, hfits, rfl, hc⟩ := ih h
    refine ⟨b :: tail, .cons hb hfits, rfl, ?_⟩
    rw [List.foldl_cons]
    exact hc
  | case4 => cases h

theorem follow_isSuffix (code : Nat) (ranges : List ByteRange) (bytes : List UInt8) :
    (follow code ranges bytes).2 <:+ bytes := by
  fun_induction follow code ranges bytes with
  | case1 | case2 | case4 => exact List.suffix_rfl
  | case3 code r ranges b bytes hb ih => exact ih.trans (List.suffix_cons _ _)

/-- Bytes that end too early, or are followed by one that fits nowhere, give no character. -/
theorem follow_of_cut {ranges : List ByteRange} {m more rest : List UInt8}
    (h : Fits ranges (m ++ more)) (hmore : more ≠ [])
    (hrest : ∀ b ∈ rest.head?, ∀ r ∈ ranges, ¬ r.contains b) (code : Nat) :
    follow code ranges (m ++ rest) = (none, rest) := by
  induction m generalizing code ranges with
  | nil =>
    obtain ⟨b, more, rfl⟩ := List.exists_cons_of_ne_nil hmore
    obtain ⟨r, ranges, -, -, rfl⟩ := List.forall₂_cons_right_iff.1 h
    cases rest with
    | nil => rfl
    | cons x rest => rw [List.nil_append, follow, if_neg (hrest x rfl r List.mem_cons_self)]
  | cons b m ih =>
    obtain ⟨r, ranges, hb, hfits, rfl⟩ := List.forall₂_cons_right_iff.1 h
    rw [List.cons_append, follow_cons hb]
    exact ih hfits (fun x hx s hs => hrest x hx s (List.mem_cons_of_mem r hs)) _

/-! ## Leading bytes -/

/-- The leading bytes by the number of bytes they ask for, with the code they contribute. The second
byte of three must not begin a shorter form or a surrogate, and the second of four must not begin a
shorter form or a number beyond the last code point. -/
inductive Leads (a : UInt8) (code : Nat) : List ByteRange → Prop
  | one (h : a.toNat < 0x80) (hcode : code = a.toNat) : Leads a code []
  | two (h : 0xC2 ≤ a.toNat) (h' : a.toNat < 0xE0) (hcode : code = a.toNat - 0xC0) :
      Leads a code [.continuation]
  | three {second : ByteRange} (h : 0xE0 ≤ a.toNat) (h' : a.toNat < 0xF0)
      (hcode : code = a.toNat - 0xE0)
      (hsecond : ∀ b, second.contains b ↔ 0x80 ≤ b.toNat ∧ b.toNat ≤ 0xBF ∧
        (a.toNat = 0xE0 → 0xA0 ≤ b.toNat) ∧ (a.toNat = 0xED → b.toNat < 0xA0)) :
      Leads a code [second, .continuation]
  | four {second : ByteRange} (h : 0xF0 ≤ a.toNat) (h' : a.toNat < 0xF5)
      (hcode : code = a.toNat - 0xF0)
      (hsecond : ∀ b, second.contains b ↔ 0x80 ≤ b.toNat ∧ b.toNat ≤ 0xBF ∧
        (a.toNat = 0xF0 → 0x90 ≤ b.toNat) ∧ (a.toNat = 0xF4 → b.toNat < 0x90)) :
      Leads a code [second, .continuation, .continuation]

/-- What a byte leads, in terms of its number. -/
theorem lead?_eq (a : UInt8) : lead? a =
    let n := a.toNat
    let tail := ByteRange.continuation
    if n < 0x80 then some (n, [])
    else if n < 0xC2 then none
    else if n < 0xE0 then some (n - 0xC0, [tail])
    else if n = 0xE0 then some (0, [⟨0xA0, 0xBF⟩, tail])
    else if n = 0xED then some (0xD, [⟨0x80, 0x9F⟩, tail])
    else if n < 0xF0 then some (n - 0xE0, [tail, tail])
    else if n = 0xF0 then some (0, [⟨0x90, 0xBF⟩, tail, tail])
    else if n < 0xF4 then some (n - 0xF0, [tail, tail, tail])
    else if n = 0xF4 then some (4, [⟨0x80, 0x8F⟩, tail, tail])
    else none := by
  simp only [lead?, UInt8.lt_iff_toNat_lt, ← UInt8.toNat_inj, UInt8.reduceToNat]

theorem leads_of_lead? {a : UInt8} {code : Nat} {ranges : List ByteRange}
    (h : lead? a = some (code, ranges)) : Leads a code ranges := by
  have hrange : ∀ {low high : UInt8} {P : UInt8 → Prop},
      (∀ b : UInt8, low.toNat ≤ b.toNat ∧ b.toNat ≤ high.toNat ↔ P b) →
      ∀ b, (ByteRange.mk low high).contains b ↔ P b :=
    fun h b => ByteRange.contains_iff.trans (h b)
  rw [lead?_eq] at h
  simp only at h
  split_ifs at h <;> simp only [Option.some.injEq, Prod.mk.injEq] at h <;>
    obtain ⟨hcode, rfl⟩ := h
  · exact .one (by omega) hcode.symm
  · exact .two (by omega) (by omega) hcode.symm
  -- the second byte after 0xE0, after 0xED and after the others
  iterate 3
    · refine .three (by omega) (by omega) (by omega) (hrange fun b => ?_)
      simp only [UInt8.reduceToNat]
      omega
  -- the second byte after 0xF0, after those up to 0xF3 and after 0xF4
  iterate 3
    · refine .four (by omega) (by omega) (by omega) (hrange fun b => ?_)
      simp only [UInt8.reduceToNat]
      omega

/-- A byte leads a character if it does not continue one and is not too small or too large. -/
theorem exists_lead? {a : UInt8} (h : a.toNat < 0x80 ∨ 0xC2 ≤ a.toNat ∧ a.toNat < 0xF5) :
    ∃ code ranges, lead? a = some (code, ranges) := by
  rw [lead?_eq]
  simp only
  split_ifs
  all_goals first | exact ⟨_, _, rfl⟩ | omega

/-! ## Characters -/

theorem continuation_contains_iff {b : UInt8} :
    ByteRange.continuation.contains b ↔ 0x80 ≤ b.toNat ∧ b.toNat ≤ 0xBF :=
  ByteRange.contains_iff

theorem extend_eq (code : Nat) (b : UInt8) : extend code b = code * 64 + (b.toNat - 0x80) := by
  unfold extend
  exact Eq.refl _

/-- How a character is written, in terms of its number. -/
theorem encodeChar_eq (c : Char) : encodeChar c =
    let n := c.toNat
    let tail := fun n => UInt8.ofNat (0x80 + n % 64)
    if n < 0x80 then [UInt8.ofNat n]
    else if n < 0x800 then [UInt8.ofNat (0xC0 + n / 64), tail n]
    else if n < 0x10000 then [UInt8.ofNat (0xE0 + n / 4096), tail (n / 64), tail n]
    else [UInt8.ofNat (0xF0 + n / 262144), tail (n / 4096), tail (n / 64), tail n] := by
  simp only [encodeChar, Nat.shiftRight_eq_div_pow, Nat.pow_zero, Nat.div_one]

theorem toNat_ofNat_of_lt {n : Nat} (h : n < 0x100) : (UInt8.ofNat n).toNat = n := by
  rw [UInt8.toNat_ofNat', Nat.mod_eq_of_lt h]

theorem toNat_tail (n : Nat) : (UInt8.ofNat (0x80 + n % 64)).toNat = 0x80 + n % 64 :=
  toNat_ofNat_of_lt (by omega)

theorem contains_tail (n : Nat) :
    ByteRange.continuation.contains (UInt8.ofNat (0x80 + n % 64)) := by
  rw [continuation_contains_iff, toNat_tail]
  omega

/-- A character is written as a leading byte and bytes that fit its ranges. -/
theorem exists_fits_encodeChar (c : Char) : ∃ a code ranges tail, encodeChar c = a :: tail ∧
    lead? a = some (code, ranges) ∧ Fits ranges tail ∧ tail.foldl extend code = c.toNat := by
  have hvalid : c.toNat < 0xD800 ∨ 0xDFFF < c.toNat ∧ c.toNat < 0x110000 := c.valid
  rw [encodeChar_eq]
  generalize c.toNat = n at hvalid ⊢
  simp only
  have hlead : ∀ m, (m < 0x80 ∨ 0xC2 ≤ m ∧ m < 0xF5) → ∃ code ranges,
      (UInt8.ofNat m).toNat = m ∧ lead? (UInt8.ofNat m) = some (code, ranges) ∧
        Leads (UInt8.ofNat m) code ranges := by
    intro m hm
    have ha := toNat_ofNat_of_lt (n := m) (by omega)
    obtain ⟨code, ranges, h⟩ := exists_lead? (ha.symm ▸ hm)
    exact ⟨code, ranges, ha, h, leads_of_lead? h⟩
  split_ifs with h1 h2 h3
  · obtain ⟨code, ranges, ha, h, hleads⟩ := hlead n (by omega)
    refine ⟨_, code, ranges, _, rfl, h, ?_⟩
    cases hleads with
    | one _ hcode => exact ⟨.nil, hcode.trans ha⟩
    | two | three | four => omega
  · obtain ⟨code, ranges, ha, h, hleads⟩ := hlead (0xC0 + n / 64) (by omega)
    refine ⟨_, code, ranges, _, rfl, h, ?_⟩
    cases hleads with
    | two _ _ hcode =>
      refine ⟨.cons (contains_tail n) .nil, ?_⟩
      simp only [List.foldl_cons, List.foldl_nil, extend_eq, toNat_tail]
      omega
    | one | three | four => omega
  · obtain ⟨code, ranges, ha, h, hleads⟩ := hlead (0xE0 + n / 4096) (by omega)
    refine ⟨_, code, ranges, _, rfl, h, ?_⟩
    cases hleads with
    | three _ _ hcode hsecond =>
      have hb := toNat_tail (n / 64)
      refine ⟨.cons ((hsecond _).2 (by omega)) (.cons (contains_tail n) .nil), ?_⟩
      simp only [List.foldl_cons, List.foldl_nil, extend_eq, toNat_tail]
      omega
    | one | two | four => omega
  · obtain ⟨code, ranges, ha, h, hleads⟩ := hlead (0xF0 + n / 262144) (by omega)
    refine ⟨_, code, ranges, _, rfl, h, ?_⟩
    cases hleads with
    | four _ _ hcode hsecond =>
      have hb := toNat_tail (n / 4096)
      refine ⟨.cons ((hsecond _).2 (by omega))
        (.cons (contains_tail (n / 64)) (.cons (contains_tail n) .nil)), ?_⟩
      simp only [List.foldl_cons, List.foldl_nil, extend_eq, toNat_tail]
      omega
    | one | two | three => omega

theorem toNat_charOfNat {n : Nat} (h : n < 0xD800 ∨ 0xDFFF < n ∧ n < 0x110000) :
    (Char.ofNat n).toNat = n := by
  have heq : Char.ofNat n = Char.ofNatAux n h := dif_pos h
  rw [heq]
  rfl

theorem ofNat_eq (b : UInt8) {n : Nat} (h : n = b.toNat) : UInt8.ofNat n = b := by
  rw [h, UInt8.ofNat_toNat]

/-- A leading byte and bytes that fit its ranges are how a character is written. -/
theorem encodeChar_of_fits {a : UInt8} {code : Nat} {ranges : List ByteRange} {tail : List UInt8}
    (h : lead? a = some (code, ranges)) (hfits : Fits ranges tail) :
    encodeChar (Char.ofNat (tail.foldl extend code)) = a :: tail := by
  rw [encodeChar_eq]
  cases leads_of_lead? h with
  | one ha hcode =>
    cases hfits
    rw [List.foldl_nil, toNat_charOfNat (by omega)]
    simp only [hcode, if_pos ha, UInt8.ofNat_toNat]
  | two ha ha' hcode =>
    obtain ⟨b, _, hb, hnil, rfl⟩ := List.forall₂_cons_left_iff.1 hfits
    cases hnil
    rw [continuation_contains_iff] at hb
    simp only [List.foldl_cons, List.foldl_nil, extend_eq]
    rw [toNat_charOfNat (by omega), if_neg (by omega), if_pos (by omega),
      ofNat_eq a (by omega), ofNat_eq b (by omega)]
  | three ha ha' hcode hsecond =>
    obtain ⟨b, _, hb, hrest, rfl⟩ := List.forall₂_cons_left_iff.1 hfits
    obtain ⟨d, _, hd, hnil, rfl⟩ := List.forall₂_cons_left_iff.1 hrest
    cases hnil
    rw [hsecond] at hb
    rw [continuation_contains_iff] at hd
    simp only [List.foldl_cons, List.foldl_nil, extend_eq]
    rw [toNat_charOfNat (by omega), if_neg (by omega), if_neg (by omega), if_pos (by omega),
      ofNat_eq a (by omega), ofNat_eq b (by omega), ofNat_eq d (by omega)]
  | four ha ha' hcode hsecond =>
    obtain ⟨b, _, hb, hrest, rfl⟩ := List.forall₂_cons_left_iff.1 hfits
    obtain ⟨d, _, hd, hrest', rfl⟩ := List.forall₂_cons_left_iff.1 hrest
    obtain ⟨e, _, he, hnil, rfl⟩ := List.forall₂_cons_left_iff.1 hrest'
    cases hnil
    rw [hsecond] at hb
    rw [continuation_contains_iff] at hd he
    simp only [List.foldl_cons, List.foldl_nil, extend_eq]
    rw [toNat_charOfNat (by omega), if_neg (by omega), if_neg (by omega), if_neg (by omega),
      ofNat_eq a (by omega), ofNat_eq b (by omega), ofNat_eq d (by omega),
      ofNat_eq e (by omega)]

/-! ## The front of a byte sequence -/

namespace Leads

variable {a : UInt8} {code : Nat} {ranges : List ByteRange}

theorem not_continuation (h : Leads a code ranges) : ¬ ByteRange.continuation.contains a := by
  rw [continuation_contains_iff]
  cases h <;> omega

theorem continuation_of_mem (h : Leads a code ranges) {r : ByteRange} (hr : r ∈ ranges)
    {b : UInt8} (hb : r.contains b) : ByteRange.continuation.contains b := by
  cases h with
  | one => cases hr
  | two =>
    obtain rfl := List.mem_singleton.1 hr
    exact hb
  | three _ _ _ hsecond | four _ _ _ hsecond =>
    rcases List.mem_cons.1 hr with rfl | hr
    · obtain ⟨hlow, hhigh, -⟩ := (hsecond b).1 hb
      exact continuation_contains_iff.2 ⟨hlow, hhigh⟩
    · obtain rfl : r = .continuation := by simpa using hr
      exact hb

theorem continuation_of_fits (h : Leads a code ranges) {tail : List UInt8}
    (hfits : Fits ranges tail) : ∀ b ∈ tail, ByteRange.continuation.contains b := by
  have hranges := fun r hr b => h.continuation_of_mem (r := r) hr (b := b)
  clear h
  induction hfits with
  | nil => exact List.forall_mem_nil _
  | cons hb _ ih =>
    exact List.forall_mem_cons.2 ⟨hranges _ List.mem_cons_self _ hb,
      ih fun r hr => hranges r (List.mem_cons_of_mem _ hr)⟩

/-- Every leading byte begins some character. -/
theorem exists_fits (h : Leads a code ranges) : ∃ tail, Fits ranges tail := by
  have htail : ByteRange.continuation.contains 0x80 := by decide
  cases h with
  | one => exact ⟨[], .nil⟩
  | two => exact ⟨[0x80], .cons htail .nil⟩
  | three _ _ _ hsecond =>
    by_cases ha : a.toNat = 0xE0
    · exact ⟨[0xA0, 0x80], .cons ((hsecond _).2 (by simp [ha])) (.cons htail .nil)⟩
    · exact ⟨[0x80, 0x80], .cons ((hsecond _).2 (by simp [ha])) (.cons htail .nil)⟩
  | four _ _ _ hsecond =>
    by_cases ha : a.toNat = 0xF0
    · exact ⟨[0x90, 0x80, 0x80],
        .cons ((hsecond _).2 (by simp [ha])) (.cons htail (.cons htail .nil))⟩
    · exact ⟨[0x80, 0x80, 0x80],
        .cons ((hsecond _).2 (by simp [ha])) (.cons htail (.cons htail .nil))⟩

end Leads

theorem front_isSuffix (a : UInt8) (bytes : List UInt8) : (front a bytes).2 <:+ bytes := by
  unfold front
  split
  · exact follow_isSuffix _ _ _
  · exact List.suffix_rfl

section

variable {c : Char} {a : UInt8}

theorem fits_of_encodeChar {tail : List UInt8} (h : encodeChar c = a :: tail) :
    ∃ code ranges, lead? a = some (code, ranges) ∧ Fits ranges tail ∧
      tail.foldl extend code = c.toNat := by
  obtain ⟨_, code, ranges, _, heq, hfits⟩ := exists_fits_encodeChar c
  obtain ⟨rfl, rfl⟩ := List.cons.inj (heq.symm.trans h)
  exact ⟨code, ranges, hfits⟩

/-- No character begins with a byte that continues one. -/
theorem not_continuation_of_encodeChar {tail : List UInt8} (h : encodeChar c = a :: tail) :
    ¬ ByteRange.continuation.contains a := by
  obtain ⟨code, ranges, hlead, -⟩ := fits_of_encodeChar h
  exact (leads_of_lead? hlead).not_continuation

theorem front_of_encodeChar {tail : List UInt8} (h : encodeChar c = a :: tail)
    (rest : List UInt8) : front a (tail ++ rest) = (some c, rest) := by
  obtain ⟨code, ranges, hlead, hfits, hcode⟩ := fits_of_encodeChar h
  have hfollow := follow_of_fits hfits code rest
  rw [hcode, Char.ofNat_toNat] at hfollow
  rw [front, hlead]
  exact hfollow

theorem eq_encodeChar_of_front {bytes rest : List UInt8} (h : front a bytes = (some c, rest)) :
    a :: bytes = encodeChar c ++ rest := by
  unfold front at h
  split at h
  · rename_i code ranges hlead
    obtain ⟨tail, hfits, rfl, rfl⟩ := fits_of_follow h
    rw [encodeChar_of_fits hlead hfits, List.cons_append]
  · cases h

/-- The beginning of a character, cut off before its end, is one malformed sequence. -/
theorem front_of_cut {m more rest : List UInt8} (h : encodeChar c = a :: (m ++ more))
    (hmore : more ≠ []) (hrest : ∀ b ∈ rest.head?, ¬ ByteRange.continuation.contains b) :
    front a (m ++ rest) = (none, rest) := by
  obtain ⟨code, ranges, hlead, hfits, -⟩ := fits_of_encodeChar h
  rw [front, hlead]
  exact follow_of_cut hfits hmore (fun b hb r hr hcontains =>
    hrest b hb ((leads_of_lead? hlead).continuation_of_mem hr hcontains)) _

theorem exists_mem_encodeChar_of_lead? {code : Nat} {ranges : List ByteRange}
    (h : lead? a = some (code, ranges)) : ∃ c, a ∈ encodeChar c := by
  obtain ⟨tail, hfits⟩ := (leads_of_lead? h).exists_fits
  refine ⟨Char.ofNat (tail.foldl extend code), ?_⟩
  rw [encodeChar_of_fits h hfits]
  exact List.mem_cons_self

/-- A byte that no character is written with is one malformed sequence. -/
theorem front_of_stray (h : ∀ c, a ∉ encodeChar c) (rest : List UInt8) :
    front a rest = (none, rest) := by
  have hlead : lead? a = none := by
    by_contra hlead
    obtain ⟨_, hlead⟩ := Option.ne_none_iff_exists'.1 hlead
    obtain ⟨c, hc⟩ := exists_mem_encodeChar_of_lead? hlead
    exact h c hc
  rw [front, hlead]

/-- The bytes that no character is written with. -/
theorem forall_notMem_encodeChar_iff :
    (∀ c, a ∉ encodeChar c) ↔ a.toNat = 0xC0 ∨ a.toNat = 0xC1 ∨ 0xF5 ≤ a.toNat := by
  constructor
  · intro h
    by_contra hrange
    by_cases ha : ByteRange.continuation.contains a
    · -- a byte that continues characters stands behind 0xC2
      have hlead : lead? 0xC2 = some (2, [.continuation]) := rfl
      have hmem := encodeChar_of_fits hlead (.cons ha .nil)
      exact h _ (hmem ▸ List.mem_cons_of_mem _ List.mem_cons_self)
    · rw [continuation_contains_iff] at ha
      obtain ⟨code, ranges, hlead⟩ := exists_lead? (a := a) (by omega)
      obtain ⟨c, hc⟩ := exists_mem_encodeChar_of_lead? hlead
      exact h c hc
  · intro h c hmem
    obtain ⟨b, code, ranges, tail, heq, hlead, hfits, -⟩ := exists_fits_encodeChar c
    have hleads := leads_of_lead? hlead
    rw [heq] at hmem
    rcases List.mem_cons.1 hmem with rfl | hmem
    · cases hleads <;> omega
    · have ha := hleads.continuation_of_fits hfits a hmem
      rw [continuation_contains_iff] at ha
      omega

end

end Lettering.Utf8
