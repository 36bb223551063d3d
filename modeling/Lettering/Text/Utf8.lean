/-!
# UTF-8

`pieces` cuts a byte sequence into characters and malformed sequences. A malformed sequence is as
long as possible while it still begins some well-formed character, and at least one byte; at the
end of the input it is whatever is left of an unfinished character.

* `decode` accepts only well-formed input and otherwise reports the number of good bytes;
* `decodeSkipping` drops the malformed sequences;
* `encode` writes characters as bytes.
-/

namespace Lettering.Utf8

/-- A range of bytes, both ends included. -/
structure ByteRange where
  low : UInt8
  high : UInt8

namespace ByteRange

/-- Whether a byte lies in the range. -/
def contains (r : ByteRange) (b : UInt8) : Bool := r.low ≤ b && b ≤ r.high

/-- The bytes that continue a character. -/
def continuation : ByteRange := ⟨0x80, 0xBF⟩

end ByteRange

/-- The bits a leading byte contributes, and the ranges of the bytes that must follow it. The
second byte is restricted where a longer form of a shorter character, a surrogate or a number
beyond the last code point would begin. -/
def lead? (b : UInt8) : Option (Nat × List ByteRange) :=
  let tail := ByteRange.continuation
  if b < 0x80 then some (b.toNat, [])
  else if b < 0xC2 then none
  else if b < 0xE0 then some (b.toNat - 0xC0, [tail])
  else if b = 0xE0 then some (0, [⟨0xA0, 0xBF⟩, tail])
  else if b = 0xED then some (0xD, [⟨0x80, 0x9F⟩, tail])
  else if b < 0xF0 then some (b.toNat - 0xE0, [tail, tail])
  else if b = 0xF0 then some (0, [⟨0x90, 0xBF⟩, tail, tail])
  else if b < 0xF4 then some (b.toNat - 0xF0, [tail, tail, tail])
  else if b = 0xF4 then some (4, [⟨0x80, 0x8F⟩, tail, tail])
  else none

/-- Read the bytes that follow a leading byte. The answer is the character, or none if a byte
does not fit, and the bytes not used. -/
def follow (code : Nat) : List ByteRange → List UInt8 → Option Char × List UInt8
  | [], bytes => (some (Char.ofNat code), bytes)
  | _ :: _, [] => (none, [])
  | r :: ranges, b :: bytes =>
    if r.contains b then follow (code * 64 + (b.toNat - 0x80)) ranges bytes
    else (none, b :: bytes)

theorem follow_length_le (code : Nat) (ranges : List ByteRange) (bytes : List UInt8) :
    (follow code ranges bytes).2.length ≤ bytes.length := by
  induction ranges generalizing code bytes with
  | nil => simp [follow]
  | cons r ranges ih =>
    cases bytes with
    | nil => simp [follow]
    | cons b bytes =>
      simp only [follow]
      split
      · exact Nat.le_succ_of_le (ih _ _)
      · simp

/-- The first character or malformed sequence of `b :: bytes`, and what comes after it. -/
def front (b : UInt8) (bytes : List UInt8) : Option Char × List UInt8 :=
  match lead? b with
  | some (code, ranges) => follow code ranges bytes
  | none => (none, bytes)

theorem front_length_le (b : UInt8) (bytes : List UInt8) :
    (front b bytes).2.length ≤ bytes.length := by
  unfold front
  split
  · exact follow_length_le _ _ _
  · exact Nat.le_refl _

/-- The characters of a byte sequence, with `none` for every malformed sequence. -/
def pieces : List UInt8 → List (Option Char)
  | [] => []
  | b :: bytes => (front b bytes).1 :: pieces (front b bytes).2
termination_by bytes => bytes.length
decreasing_by exact Nat.lt_succ_of_le (front_length_le b bytes)

/-- The characters before the first malformed sequence. -/
def leading : List (Option Char) → List Char
  | some c :: rest => c :: leading rest
  | _ => []

/-- The bytes of a character. -/
def encodeChar (c : Char) : List UInt8 :=
  let n := c.toNat
  let tail (shift : Nat) : UInt8 := UInt8.ofNat (0x80 + (n >>> shift) % 64)
  if n < 0x80 then [UInt8.ofNat n]
  else if n < 0x800 then [UInt8.ofNat (0xC0 + n >>> 6), tail 0]
  else if n < 0x10000 then [UInt8.ofNat (0xE0 + n >>> 12), tail 6, tail 0]
  else [UInt8.ofNat (0xF0 + n >>> 18), tail 12, tail 6, tail 0]

/-- The bytes of a text. -/
def encode (text : List Char) : List UInt8 :=
  text.flatMap encodeChar

/-- The text of well-formed bytes; otherwise the number of bytes before the first malformed
sequence. -/
def decode (bytes : List UInt8) : Except Nat (List Char) :=
  let found := pieces bytes
  let good := leading found
  if good.length = found.length then .ok good else .error (encode good).length

/-- The text of the well-formed characters, malformed sequences left out. -/
def decodeSkipping (bytes : List UInt8) : List Char :=
  (pieces bytes).filterMap id

end Lettering.Utf8
