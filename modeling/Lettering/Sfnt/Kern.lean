import Lettering.Sfnt.Bytes

/-!
# Pair kerning

The classic kerning table: subtables that adjust pairs of glyphs. Two headers are in use, one
with 16-bit and one with 32-bit fields. `KernTable.ofBytes?` reads the table; `KernPairs` keeps
the subtables that count, and their values add up.
-/

namespace Lettering.Sfnt

/-- The adjustment of one pair. -/
structure KernPair where
  left : Nat
  right : Nat
  value : Int
  deriving Inhabited, DecidableEq, Repr

namespace KernPair

/-- Pairs are ordered by their left, then their right glyph. -/
def key (p : KernPair) : Nat := p.left * 0x10000 + p.right

end KernPair

/-- Offsets of a range of glyphs with 16-bit numbers; other glyphs have offset zero. -/
structure ClassOffsets where
  first : Nat
  offsets : Array Nat

namespace ClassOffsets

/-- The offset of a glyph. -/
def get (c : ClassOffsets) (glyph : Nat) : Nat :=
  if c.first ≤ glyph ∧ glyph < 0x10000 then c.offsets.getD (glyph - c.first) 0 else 0

/-- Read the offsets at `start`. -/
def ofBytes? (b : ByteArray) (start : Nat) : Option ClassOffsets := do
  let first ← u16? b start
  let count ← u16? b (start + 2)
  return ⟨first, (← u16s? b (start + 4) count).toArray⟩

end ClassOffsets

/-- The values of a subtable. -/
inductive KernValues
  /-- A sorted list of pairs. -/
  | pairs (pairs : Array KernPair)
  /-- A machine that runs along a line of glyphs. Nothing reads it. -/
  | states (body : ByteArray)
  /-- A table of rows. Offsets count from `header` bytes before `body`. -/
  | rows (body : ByteArray) (header : Nat) (left right : ClassOffsets) (array : Nat)
  /-- A table over classes of glyphs. -/
  | classes (values : Array Int) (leftClass rightClass : Array Nat) (rightCount : Nat)
      (index : Array Nat)

namespace KernValues

/-- The place of the last pair whose key is at most `key`, by halving: `base` is the last place
known to be so, or the first of all, and `size` places from there on are still in question. -/
def searchPlace (pairs : Array KernPair) (key base size : Nat) : Nat :=
  if 1 < size then
    let middle := base + size / 2
    let atMost := pairs[middle]?.any (·.key ≤ key)
    searchPlace pairs key (if atMost then middle else base) (size - size / 2)
  else base
termination_by size

/-- The value of the pair of a key. -/
def searchPairs (pairs : Array KernPair) (key : Nat) : Option Int := do
  let p ← pairs[searchPlace pairs key 0 pairs.size]?
  if p.key = key then some p.value else none

/-- The value of a pair of glyphs. -/
def get? (values : KernValues) (left right : Nat) : Option Int :=
  match values with
  | pairs ps =>
    if left < 0x10000 ∧ right < 0x10000 then
      searchPairs ps (left * 0x10000 + right)
    else none
  | states _ => none
  | rows body header leftOffsets rightOffsets array =>
    let row := leftOffsets.get left
    if header + array ≤ row then i16? body (row - header + rightOffsets.get right) else none
  | classes values leftClass rightClass rightCount index => do
    let l ← leftClass[left]?
    let r ← rightClass[right]?
    values[← index[l * rightCount + r]?]?

/-- Whether there is no value for any pair, as far as the form of the values tells. -/
def isEmpty : KernValues → Bool
  | pairs ps => ps.isEmpty
  | states _ | rows .. | classes .. => false

/-- The values, if they are of a form that is used. -/
def used? : KernValues → Option KernValues
  | states _ => none
  | values => some values

/-- Read `count` pairs from `i` on. -/
def readPairs (b : ByteArray) (i : Nat) : Nat → Option (List KernPair)
  | 0 => some []
  | n + 1 => do
    let pair : KernPair := ⟨← u16? b i, ← u16? b (i + 2), ← i16? b (i + 4)⟩
    return pair :: (← readPairs b (i + 6) n)

/-- Read `count` bytes from `i` on. -/
def readBytes (b : ByteArray) (i count : Nat) : Option (Array Nat) := do
  return ((← slice? b i count).toList.map UInt8.toNat).toArray

/-- Read a body of pairs. -/
def pairsOfBytes? (b : ByteArray) : Option KernValues := do
  let count ← u16? b 0
  return .pairs (← readPairs b 8 count).toArray

/-- Read a body of rows. -/
def rowsOfBytes? (b : ByteArray) (header : Nat) : Option KernValues := do
  let _width ← u16? b 0
  let left ← u16? b 2
  let right ← u16? b 4
  let array ← u16? b 6
  if left < header ∨ right < header ∨ array < header then none
  else
    return .rows b header (← ClassOffsets.ofBytes? b (left - header))
      (← ClassOffsets.ofBytes? b (right - header)) (array - header)

/-- Read a body of classes. -/
def classesOfBytes? (b : ByteArray) : Option KernValues := do
  let glyphs ← u16? b 0
  let count ← u8? b 2
  let leftCount ← u8? b 3
  let rightCount ← u8? b 4
  let _flags ← u8? b 5
  let values ← u16s? b 6 count
  let start := 6 + 2 * count
  return .classes (values.map signed16).toArray (← readBytes b start glyphs)
    (← readBytes b (start + glyphs) glyphs) rightCount
    (← readBytes b (start + 2 * glyphs) (leftCount * rightCount))

end KernValues

/-- One subtable. -/
structure KernSubtable where
  horizontal : Bool
  crossStream : Bool
  variable_ : Bool
  /-- The values; none when the body cannot be read. -/
  values : Option KernValues

namespace KernSubtable

/-- Whether the subtable adjusts horizontal pairs. -/
def counts (s : KernSubtable) : Bool := s.horizontal && !s.crossStream && !s.variable_

/-- Read a body of the given format behind a header of the given size. -/
def valuesOf? (format header : Nat) (body : ByteArray) : Option KernValues :=
  match format with
  | 0 => KernValues.pairsOfBytes? body
  | 1 => some (.states body)
  | 2 => KernValues.rowsOfBytes? body header
  | 3 => KernValues.classesOfBytes? body
  | _ => none

/-- Read a subtable behind the short header. -/
def ofShort? (b : ByteArray) : Option KernSubtable := do
  let coverage ← u16? b 4
  return {
    horizontal := coverage % 2 == 1
    crossStream := coverage / 4 % 2 == 1
    variable_ := false
    values := valuesOf? (coverage / 0x100) 6 (← dropBytes? b 6) }

/-- Read a subtable behind the long header. -/
def ofLong? (b : ByteArray) : Option KernSubtable := do
  let coverage ← u16? b 4
  let _tuple ← u16? b 6
  return {
    horizontal := coverage / 0x8000 % 2 == 0
    crossStream := coverage / 0x4000 % 2 == 1
    variable_ := coverage / 0x2000 % 2 == 1
    values := valuesOf? (coverage % 0x100) 8 (← dropBytes? b 8) }

end KernSubtable

/-- The subtables of a table; those that cannot be read are `none`. -/
abbrev KernTable := List (Option KernSubtable)

namespace KernTable

/-- Read up to `count` subtables with short headers. The last one extends to the end of the bytes,
whatever its header says. -/
def shortSubtables : Nat → ByteArray → KernTable
  | 0, _ => []
  | count + 1, b =>
    match (if count = 0 then some b.size else u16? b 2) with
    | none | some 0 => []
    | some length =>
      match slice? b 0 length with
      | none => []
      | some body =>
        KernSubtable.ofShort? body :: shortSubtables count (b.extract length b.size)

/-- Read up to `count` subtables with long headers, from position `i` on. -/
def longSubtables (b : ByteArray) (i count : Nat) : KernTable :=
  if i < b.size ∧ 0 < count then
    match u32? b i with
    | none | some 0 => []
    | some (length + 1) =>
      match slice? b i (length + 1) with
      | none => []
      | some body => KernSubtable.ofLong? body :: longSubtables b (i + (length + 1)) (count - 1)
  else []
termination_by b.size - i

/-- Read a kerning table; none when its header is cut off. -/
def ofBytes? (b : ByteArray) : Option KernTable := do
  let version ← u16? b 0
  if version = 0 then
    let count ← u16? b 2
    return shortSubtables count (b.extract 4 b.size)
  else
    let count ← u32? b 4
    return longSubtables b 8 count

end KernTable

/-- The values of the subtables that count. -/
structure KernPairs where
  subtables : List KernValues := []

namespace KernPairs

/-- Keep what can be read, of that the subtables that adjust horizontal pairs, and of those the
ones with values that can be read and are used. -/
def ofTable (t : KernTable) : KernPairs :=
  ⟨((t.filterMap id).filter (·.counts)).filterMap fun s => s.values >>= (·.used?)⟩

/-- The pairs of the bytes of a table; none when its header is cut off. -/
def ofBytes? (b : ByteArray) : Option KernPairs :=
  ofTable <$> KernTable.ofBytes? b

/-- The least 32-bit number. -/
def least : Int := -0x80000000

/-- The greatest 32-bit number. -/
def greatest : Int := 0x7FFFFFFF

/-- Addition that stops at the ends of the 32-bit range. -/
def addWithin (a b : Int) : Int := max least (min greatest (a + b))

/-- The adjustment between two glyphs, zero when no subtable holds the pair. -/
def pair (k : KernPairs) (left right : Nat) : Int :=
  (k.subtables.filterMap (·.get? left right)).foldl addWithin 0

/-- Whether no subtable can hold a value. -/
def isEmpty (k : KernPairs) : Bool := k.subtables.all (·.isEmpty)

end KernPairs

end Lettering.Sfnt
