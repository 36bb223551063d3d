import Lettering.Sfnt.Container

/-!
# Character maps

Two forms of character maps are read: segments over 16-bit code points and groups over all code
points. `CharMap.ofTable?` picks the widest one of a font's character map table.
-/

namespace Lettering.Sfnt

/-- A map from code points to glyphs. -/
inductive CharMap
  /-- Segments: the subtable and the number of segments. -/
  | segments (b : ByteArray) (count : Nat)
  /-- Groups of consecutive code points: the subtable and the number of groups. -/
  | groups (b : ByteArray) (count : Nat)

namespace CharMap

/-- The first of `size` places from `base` on whose end is not below `code`, found by halving. -/
def searchEnds (endAt : Nat → Option Nat) (startAt : Nat → Option Nat) (code low high : Nat) :
    Option Nat :=
  if low < high then
    let middle := (low + high) / 2
    match startAt middle, endAt middle with
    | some first, some last =>
      if code < first then searchEnds endAt startAt code low middle
      else if last < code then searchEnds endAt startAt code (middle + 1) high
      else some middle
    | _, _ => none
  else none
termination_by high - low

/-- The glyph of a code point in segments. The four arrays of segment data follow one another;
the offsets of the last one lead into the glyph list behind it. -/
def segmentGlyph (b : ByteArray) (count code : Nat) : Option Nat := do
  if 0x10000 ≤ code then none
  else
    let i ← searchEnds (fun i => u16? b (14 + 2 * i)) (fun i => u16? b (16 + 2 * count + 2 * i))
      code 0 count
    let start ← u16? b (16 + 2 * count + 2 * i)
    let delta ← u16? b (16 + 4 * count + 2 * i)
    let offset ← u16? b (16 + 6 * count + 2 * i)
    if offset = 0 then some ((code + delta) % 0x10000)
    else
      let place := offset / 2 + (code - start) - (count - i)
      let glyph ← u16? b (16 + 8 * count + 2 * place)
      if glyph = 0 then none else some ((glyph + delta) % 0x10000)

/-- The glyph of a code point in groups. -/
def groupGlyph (b : ByteArray) (count code : Nat) : Option Nat := do
  let i ← searchEnds (fun i => u32? b (20 + 12 * i)) (fun i => u32? b (16 + 12 * i)) code 0 count
  let start ← u32? b (16 + 12 * i)
  let glyph ← u32? b (24 + 12 * i)
  some ((glyph + (code - start)) % 0x100000000)

/-- The glyph of a character. -/
def get? (m : CharMap) (c : Char) : Option Nat :=
  match m with
  | segments b count => segmentGlyph b count c.toNat
  | groups b count => groupGlyph b count c.toNat

/-- Read a subtable in one of the two forms. -/
def ofSubtable? (b : ByteArray) : Option CharMap := do
  match ← u16? b 0 with
  | 4 =>
    let count := (← u16? b 6) / 2
    let _arrays ← slice? b 0 (16 + 8 * count)
    return segments b count
  | 12 =>
    let count ← u32? b 12
    let _groups ← slice? b 16 (12 * count)
    return groups b count
  | _ => none

/-- The kinds of subtables, platform and encoding, the best first. -/
def preference : List (Nat × Nat) :=
  [(3, 10), (0, 6), (0, 4), (3, 1), (0, 3), (0, 2), (0, 1), (0, 0)]

/-- The best subtable of a character map table. -/
def ofTable? (b : ByteArray) : Option CharMap := do
  let count ← u16? b 2
  let records ← (List.range count).mapM fun k => do
    return ((← u16? b (4 + 8 * k), ← u16? b (6 + 8 * k)), ← u32? b (8 + 8 * k))
  preference.findSome? fun kind =>
    records.findSome? fun (k, offset) =>
      if k = kind then dropBytes? b offset >>= ofSubtable? else none

end CharMap

end Lettering.Sfnt
