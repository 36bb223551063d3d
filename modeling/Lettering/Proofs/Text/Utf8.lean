import Lettering.Proofs.Text.Utf8Char
import Mathlib.Data.List.Basic
import Mathlib.Order.Bounds.Basic

/-!
# Strict and skipping decoding

What is read of some bytes is settled by the longest text that they begin with
(`exists_eq_encode_append`, `isPrefix_leading`). Strict decoding answers with that text if nothing
is left, and with the number of its bytes otherwise. Skipping decoding goes on behind what is left:
whole characters before and after a `Fragment` are never lost (`decodeSkipping_fragment`).
`decode_decodeSkipping` puts both together.
-/

namespace Lettering.Utf8

/-! ## Encoding -/

@[simp] theorem encode_nil : encode [] = [] := rfl

@[simp] theorem encode_cons (c : Char) (text : List Char) :
    encode (c :: text) = encodeChar c ++ encode text :=
  List.flatMap_cons

@[simp] theorem encode_append (s t : List Char) : encode (s ++ t) = encode s ++ encode t :=
  List.flatMap_append

theorem encode_isPrefix {s t : List Char} (h : s <+: t) : encode s <+: encode t := by
  obtain ⟨more, rfl⟩ := h
  rw [encode_append]
  exact List.prefix_append _ _

theorem encodeChar_eq_utf8EncodeChar (c : Char) : encodeChar c = String.utf8EncodeChar c := by
  have hvalid : c.toNat < 0xD800 ∨ 0xDFFF < c.toNat ∧ c.toNat < 0x110000 := c.valid
  have hval : c.val.toNat = c.toNat := rfl
  rw [encodeChar_eq, String.utf8EncodeChar, hval]
  generalize c.toNat = n at hvalid
  simp only [Nat.add_comm 0x80]
  by_cases h1 : n < 0x80
  · rw [if_pos h1, if_pos (by omega)]
  by_cases h2 : n < 0x800
  · rw [if_neg h1, if_pos h2, if_neg (by omega), if_pos (by omega),
      show n / 64 % 32 + 192 = 0xC0 + n / 64 by omega]
  by_cases h3 : n < 0x10000
  · rw [if_neg h1, if_neg h2, if_pos h3, if_neg (by omega), if_neg (by omega), if_pos (by omega),
      show n / 4096 % 16 + 224 = 0xE0 + n / 4096 by omega]
  · rw [if_neg h1, if_neg h2, if_neg h3, if_neg (by omega), if_neg (by omega), if_neg (by omega),
      show n / 262144 % 8 + 240 = 0xF0 + n / 262144 by omega]

/-- The bytes of a text are those that a string of its characters is stored in. -/
theorem toByteArray_encode (text : List Char) :
    (encode text).toByteArray = (String.ofList text).toUTF8 := by
  have hencode : encode text = text.flatMap String.utf8EncodeChar :=
    List.flatMap_congr fun c _ => encodeChar_eq_utf8EncodeChar c
  rw [hencode]
  rfl

/-- No text begins with a byte that continues a character. -/
theorem not_continuation_of_encode (text : List Char) :
    ∀ b ∈ (encode text).head?, ¬ ByteRange.continuation.contains b := by
  cases text with
  | nil => simp
  | cons c text =>
    obtain ⟨a, _, _, tail, heq, -⟩ := exists_fits_encodeChar c
    rw [encode_cons, heq, List.cons_append, List.head?_cons]
    intro b hb
    obtain rfl := Option.mem_some_iff.1 hb
    exact not_continuation_of_encodeChar heq

/-! ## Reading -/

@[simp] theorem pieces_nil : pieces [] = [] := by
  rw [pieces]

theorem pieces_cons (b : UInt8) (bytes : List UInt8) :
    pieces (b :: bytes) = (front b bytes).1 :: pieces (front b bytes).2 := by
  rw [pieces]

theorem pieces_encodeChar_append (c : Char) (rest : List UInt8) :
    pieces (encodeChar c ++ rest) = some c :: pieces rest := by
  obtain ⟨a, _, _, tail, heq, -⟩ := exists_fits_encodeChar c
  rw [heq, List.cons_append, pieces_cons, front_of_encodeChar heq]

/-- Whole characters are read whatever follows them. -/
theorem pieces_encode_append (text : List Char) (rest : List UInt8) :
    pieces (encode text ++ rest) = text.map some ++ pieces rest := by
  induction text with
  | nil => rfl
  | cons c text ih =>
    rw [encode_cons, List.append_assoc, pieces_encodeChar_append, ih, List.map_cons,
      List.cons_append]

@[simp] theorem leading_nil : leading [] = [] := rfl

theorem leading_map_some_append (text : List Char) (rest : List (Option Char)) :
    leading (text.map some ++ rest) = text ++ leading rest := by
  induction text with
  | nil => rfl
  | cons c text ih => rw [List.map_cons, List.cons_append, leading, ih, List.cons_append]

/-- Bytes begin with the characters that are read before the first malformed sequence. -/
theorem exists_eq_encode_append (bytes : List UInt8) :
    ∃ rest, bytes = encode (leading (pieces bytes)) ++ rest := by
  fun_induction pieces bytes with
  | case1 => exact ⟨[], rfl⟩
  | case2 b bytes ih =>
    cases hfront : front b bytes with
    | mk c rest =>
      rw [hfront] at ih
      cases c with
      | none => exact ⟨b :: bytes, rfl⟩
      | some c =>
        obtain ⟨more, hmore⟩ := ih
        refine ⟨more, ?_⟩
        rw [leading, encode_cons, List.append_assoc, ← hmore, eq_encodeChar_of_front hfront]

/-- No longer text has its bytes in front. -/
theorem isPrefix_leading {bytes : List UInt8} {text : List Char} (h : encode text <+: bytes) :
    text <+: leading (pieces bytes) := by
  obtain ⟨rest, rfl⟩ := h
  rw [pieces_encode_append, leading_map_some_append]
  exact List.prefix_append _ _

theorem pieces_eq_nil_iff {bytes : List UInt8} : pieces bytes = [] ↔ bytes = [] := by
  cases bytes with
  | nil => simp
  | cons b bytes => simp [pieces_cons]

theorem leading_pieces_encode (text : List Char) : leading (pieces (encode text)) = text := by
  have h := pieces_encode_append text []
  rw [List.append_nil, pieces_nil] at h
  rw [h, leading_map_some_append, leading_nil, List.append_nil]

/-! ## Strict decoding -/

theorem decode_encode (text : List Char) : decode (encode text) = .ok text := by
  have h := pieces_encode_append text []
  rw [List.append_nil, pieces_nil, List.append_nil] at h
  rw [decode, leading_pieces_encode, h, List.length_map]
  exact if_pos rfl

/-- Bytes that are not those of a text begin with those of the text read first. -/
theorem decode_of_ne {bytes : List UInt8} (h : ∀ text, bytes ≠ encode text) :
    decode bytes = .error (encode (leading (pieces bytes))).length := by
  refine if_neg fun hlength => ?_
  obtain ⟨rest, hrest⟩ := exists_eq_encode_append bytes
  have hpieces := congrArg List.length (pieces_encode_append (leading (pieces bytes)) rest)
  rw [← hrest, List.length_append, List.length_map, hlength] at hpieces
  have hnil : pieces rest = [] := List.length_eq_zero_iff.1 (by omega)
  rw [pieces_eq_nil_iff.1 hnil, List.append_nil] at hrest
  exact h _ hrest

theorem decode_eq_ok_iff {bytes : List UInt8} {text : List Char} :
    decode bytes = .ok text ↔ bytes = encode text := by
  constructor
  · intro h
    by_contra hne
    by_cases hsome : ∃ other, bytes = encode other
    · obtain ⟨other, rfl⟩ := hsome
      rw [decode_encode] at h
      exact hne (congrArg encode (Except.ok.inj h))
    · rw [decode_of_ne (not_exists.1 hsome)] at h
      cases h
  · rintro rfl
    exact decode_encode text

/-- The numbers of bytes that hold whole characters from the start on. -/
def wholeLengths (bytes : List UInt8) : Set Nat :=
  {n | ∃ text, encode text <+: bytes ∧ (encode text).length = n}

theorem isGreatest_wholeLengths (bytes : List UInt8) :
    IsGreatest (wholeLengths bytes) (encode (leading (pieces bytes))).length := by
  obtain ⟨rest, hrest⟩ := exists_eq_encode_append bytes
  refine ⟨⟨_, ⟨rest, hrest.symm⟩, rfl⟩, ?_⟩
  rintro _ ⟨text, htext, rfl⟩
  exact (encode_isPrefix (isPrefix_leading htext)).length_le

theorem decode_eq_error_iff {bytes : List UInt8} {n : Nat} : decode bytes = .error n ↔
    (∀ text, bytes ≠ encode text) ∧ IsGreatest (wholeLengths bytes) n := by
  constructor
  · intro h
    have hne : ∀ text, bytes ≠ encode text := by
      rintro text rfl
      rw [decode_encode] at h
      cases h
    rw [decode_of_ne hne] at h
    obtain rfl := Except.error.inj h
    exact ⟨hne, isGreatest_wholeLengths bytes⟩
  · rintro ⟨hne, hn⟩
    rw [decode_of_ne hne, hn.unique (isGreatest_wholeLengths bytes)]

/-! ## Skipping decoding -/

theorem decodeSkipping_nil : decodeSkipping [] = [] := by
  rw [decodeSkipping, pieces_nil, List.filterMap_nil]

theorem decodeSkipping_encode_append (text : List Char) (rest : List UInt8) :
    decodeSkipping (encode text ++ rest) = text ++ decodeSkipping rest := by
  simp [decodeSkipping, pieces_encode_append, List.filterMap_append, List.filterMap_map]

theorem decodeSkipping_encode (text : List Char) : decodeSkipping (encode text) = text := by
  have h := decodeSkipping_encode_append text []
  rwa [List.append_nil, decodeSkipping_nil, List.append_nil] at h

theorem decodeSkipping_cons_of_front {a : UInt8} {bytes rest : List UInt8}
    (h : front a bytes = (none, rest)) : decodeSkipping (a :: bytes) = decodeSkipping rest := by
  rw [decodeSkipping, pieces_cons, h, List.filterMap_cons_none rfl, decodeSkipping]

/-- What comes behind the longest text that bytes begin with does not begin with a character. -/
theorem front_eq_none {bytes rest : List UInt8} {a : UInt8}
    (h : bytes = encode (leading (pieces bytes)) ++ a :: rest) :
    front a rest = (none, (front a rest).2) := by
  refine Prod.ext ?_ rfl
  by_contra hsome
  obtain ⟨c, hc⟩ := Option.ne_none_iff_exists'.1 hsome
  have hbytes := eq_encodeChar_of_front (Prod.ext hc rfl : front a rest = (some c, _))
  have hlonger : encode (leading (pieces bytes) ++ [c]) <+: bytes := by
    rw [encode_append, encode_cons, encode_nil, List.append_nil]
    exact ⟨_, by rw [List.append_assoc, ← hbytes, ← h]⟩
  have hlength := (isPrefix_leading hlonger).length_le
  rw [List.length_append, List.length_singleton] at hlength
  omega

/-- Skipping decoding reads what strict decoding accepts, drops at least one byte and starts again. -/
theorem decodeSkipping_of_error {bytes : List UInt8} {n : Nat} (h : decode bytes = .error n) :
    ∃ text m rest, bytes = encode text ++ (m ++ rest) ∧ (encode text).length = n ∧ m ≠ [] ∧
      decodeSkipping bytes = text ++ decodeSkipping rest := by
  obtain ⟨hne, hn⟩ := decode_eq_error_iff.1 h
  obtain ⟨rest, hrest⟩ := exists_eq_encode_append bytes
  cases rest with
  | nil => exact absurd (hrest.trans (List.append_nil _)) (hne _)
  | cons a rest =>
    obtain ⟨m, hm⟩ := front_isSuffix a rest
    have hread := decodeSkipping_encode_append (leading (pieces bytes)) (a :: rest)
    rw [← hrest, decodeSkipping_cons_of_front (front_eq_none hrest)] at hread
    refine ⟨_, a :: m, _, ?_, (isGreatest_wholeLengths bytes).unique hn, List.cons_ne_nil _ _, hread⟩
    rw [List.cons_append, hm]
    exact hrest

/-- Bytes that hold no character and begin none that what follows could finish: nothing, a byte that
no character is written with, or a character cut off before its end. -/
inductive Fragment : List UInt8 → Prop
  | nil : Fragment []
  | stray {b : UInt8} (h : ∀ c, b ∉ encodeChar c) : Fragment [b]
  | cut {c : Char} {m : List UInt8} (h : m <+: encodeChar c) (hne : m ≠ [])
      (hlt : m ≠ encodeChar c) : Fragment m

/-- A fragment before whole characters is dropped, and nothing else is. -/
theorem decodeSkipping_fragment {m : List UInt8} (h : Fragment m) (text : List Char) :
    decodeSkipping (m ++ encode text) = text := by
  cases h with
  | nil => rw [List.nil_append, decodeSkipping_encode]
  | stray h =>
    rw [List.singleton_append, decodeSkipping_cons_of_front (front_of_stray h _),
      decodeSkipping_encode]
  | cut h hne hlt =>
    obtain ⟨more, hmore⟩ := h
    obtain ⟨a, m, rfl⟩ := List.exists_cons_of_ne_nil hne
    have hcut : more ≠ [] := by
      rintro rfl
      exact hlt (by rw [← hmore, List.append_nil])
    rw [List.cons_append, decodeSkipping_cons_of_front
      (front_of_cut hmore.symm hcut (not_continuation_of_encode text)), decodeSkipping_encode]

/-- Cutting the bytes of a text leaves whole characters and a fragment. -/
theorem exists_take_encode (text : List Char) (k : Nat) :
    ∃ whole m, whole <+: text ∧ Fragment m ∧ (encode text).take k = encode whole ++ m := by
  induction text generalizing k with
  | nil => exact ⟨[], [], List.prefix_rfl, .nil, by simp⟩
  | cons c text ih =>
    rw [encode_cons, List.take_append]
    by_cases hk : (encodeChar c).length ≤ k
    · obtain ⟨whole, m, hwhole, hm, heq⟩ := ih (k - (encodeChar c).length)
      refine ⟨c :: whole, m, List.cons_prefix_cons.2 ⟨rfl, hwhole⟩, hm, ?_⟩
      rw [heq, List.take_of_length_le hk, encode_cons, List.append_assoc]
    · rw [Nat.sub_eq_zero_of_le (by omega), List.take_zero, List.append_nil]
      refine ⟨[], _, List.nil_prefix, ?_, rfl⟩
      by_cases hzero : k = 0
      · rw [hzero, List.take_zero]
        exact .nil
      · have hlength : ((encodeChar c).take k).length = k := by
          rw [List.length_take]
          omega
        refine .cut (List.take_prefix k _) ?_ ?_
        · rintro hnil
          rw [hnil] at hlength
          exact hzero hlength.symm
        · intro heq
          rw [heq] at hlength
          omega

/-- Of a text whose bytes are cut anywhere, the characters are read that are whole. -/
theorem decodeSkipping_take_encode (text : List Char) (k : Nat) :
    ∃ whole, decodeSkipping ((encode text).take k) = whole ∧ whole <+: text ∧
      ∀ s, s <+: text → ((encode s).length ≤ k ↔ s <+: whole) := by
  obtain ⟨whole, m, hwhole, hm, htake⟩ := exists_take_encode text k
  have hread : decodeSkipping ((encode text).take k) = whole := by
    have h := decodeSkipping_fragment hm []
    rw [encode_nil, List.append_nil] at h
    rw [htake, decodeSkipping_encode_append, h, List.append_nil]
  refine ⟨whole, hread, hwhole, fun s hs => ⟨fun hlength => ?_, fun hprefix => ?_⟩⟩
  · obtain ⟨rest, hrest⟩ := List.prefix_take_iff.2 ⟨encode_isPrefix hs, hlength⟩
    rw [← hrest, decodeSkipping_encode_append] at hread
    exact ⟨_, hread⟩
  · have hlength := (encode_isPrefix hprefix).length_le
    have hcut := congrArg List.length htake
    rw [List.length_take, List.length_append] at hcut
    omega

/-- **Strict and skipping decoding agree, and only malformed bytes are lost.** `encode` writes the
bytes of strings. Strict decoding is its inverse, and of all other bytes it reports how many hold
whole characters from the start on; skipping decoding drops something there and starts again. It
gives the same on the bytes of a text, goes on from there whatever follows, and reads the whole
characters on both sides of a fragment; so of the bytes of a text, cut anywhere, it reads the
characters that are whole. -/
theorem decode_decodeSkipping :
    (∀ text, (encode text).toByteArray = (String.ofList text).toUTF8) ∧
    (∀ bytes text, decode bytes = .ok text ↔ bytes = encode text) ∧
    (∀ bytes n, decode bytes = .error n ↔
      (∀ text, bytes ≠ encode text) ∧ IsGreatest (wholeLengths bytes) n) ∧
    (∀ bytes text, decode bytes = .ok text → decodeSkipping bytes = text) ∧
    (∀ bytes n, decode bytes = .error n → ∃ text m rest, bytes = encode text ++ (m ++ rest) ∧
      (encode text).length = n ∧ m ≠ [] ∧ decodeSkipping bytes = text ++ decodeSkipping rest) ∧
    (∀ text rest, decodeSkipping (encode text ++ rest) = text ++ decodeSkipping rest) ∧
    (∀ before m after, Fragment m →
      decodeSkipping (encode before ++ m ++ encode after) = before ++ after) ∧
    ∀ text k, ∃ whole, decodeSkipping ((encode text).take k) = whole ∧ whole <+: text ∧
      ∀ s, s <+: text → ((encode s).length ≤ k ↔ s <+: whole) := by
  refine ⟨toByteArray_encode, fun _ _ => decode_eq_ok_iff, fun _ _ => decode_eq_error_iff,
    fun bytes text h => ?_, fun _ _ => decodeSkipping_of_error, decodeSkipping_encode_append,
    fun before m after hm => ?_, decodeSkipping_take_encode⟩
  · rw [decode_eq_ok_iff.1 h, decodeSkipping_encode]
  · rw [List.append_assoc, decodeSkipping_encode_append, decodeSkipping_fragment hm]

example : Fragment [0xFF] := .stray (forall_notMem_encodeChar_iff.2 (by decide))

example : decodeSkipping [0x61, 0x62, 0xFF, 0x63, 0x64, 0xE2, 0x82] = ['a', 'b', 'c', 'd'] := by
  decide +kernel

end Lettering.Utf8
