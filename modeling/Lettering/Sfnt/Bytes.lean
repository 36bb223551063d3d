/-!
# Numbers in font files

Font files hold big-endian numbers. Every reader answers `none` beyond the end of the bytes.
-/

namespace Lettering.Sfnt

/-- The byte at `i`. -/
def u8? (b : ByteArray) (i : Nat) : Option Nat :=
  if h : i < b.size then some b[i].toNat else none

/-- The 16-bit number at `i`. -/
def u16? (b : ByteArray) (i : Nat) : Option Nat := do
  return (← u8? b i) * 0x100 + (← u8? b (i + 1))

/-- The 32-bit number at `i`. -/
def u32? (b : ByteArray) (i : Nat) : Option Nat := do
  return (← u16? b i) * 0x10000 + (← u16? b (i + 2))

/-- A 16-bit pattern as a signed number. -/
def signed16 (n : Nat) : Int := if n < 0x8000 then n else (n : Int) - 0x10000

/-- A byte as a signed number. -/
def signed8 (n : Nat) : Int := if n < 0x80 then n else (n : Int) - 0x100

/-- The signed 16-bit number at `i`. -/
def i16? (b : ByteArray) (i : Nat) : Option Int := signed16 <$> u16? b i

/-- The bytes from `start` on, if `start` is not beyond the end. -/
def dropBytes? (b : ByteArray) (start : Nat) : Option ByteArray :=
  if start ≤ b.size then some (b.extract start b.size) else none

/-- The `count` bytes from `start` on. -/
def slice? (b : ByteArray) (start count : Nat) : Option ByteArray :=
  if start + count ≤ b.size then some (b.extract start (start + count)) else none

/-- `count` 16-bit numbers from `i` on. -/
def u16s? (b : ByteArray) (i : Nat) : Nat → Option (List Nat)
  | 0 => some []
  | n + 1 => do return (← u16? b i) :: (← u16s? b (i + 2) n)

/-- A whole number as a coordinate. -/
def toCoordinate (n : Int) : Float := Float.ofInt n

end Lettering.Sfnt
