import Lettering.Sfnt.Container

/-!
# Metrics of a font

The em square, the distance between lines, and the advances of glyphs. Line metrics come from the
typographic values of the font if it asks for them, else from its horizontal header; if that
gives neither ascent nor descent, from the typographic values after all, and last from the
values for clipping.
-/

namespace Lettering.Sfnt

/-- Ascent, descent and gap of a line, in font units; the descent is negative. -/
structure LineMetrics where
  ascent : Int := 0
  descent : Int := 0
  gap : Int := 0

namespace LineMetrics

/-- The typographic values of the metrics table. -/
def typographic? (os2 : ByteArray) : Option LineMetrics := do
  return ⟨← i16? os2 68, ← i16? os2 70, ← i16? os2 72⟩

/-- The clipping values of the metrics table. -/
def clipping? (os2 : ByteArray) (gap : Int) : Option LineMetrics := do
  return ⟨← u16? os2 74, -((← u16? os2 76 : Nat) : Int), gap⟩

/-- Whether the font asks for its typographic values. -/
def prefersTypographic (os2 : ByteArray) : Bool :=
  match u16? os2 62 with
  | some flags => flags / 128 % 2 == 1
  | none => false

/-- The metrics of the horizontal header. -/
def ofHeader? (hhea : ByteArray) : Option LineMetrics := do
  return ⟨← i16? hhea 4, ← i16? hhea 6, ← i16? hhea 8⟩

/-- The line metrics of a font, given its metrics table and horizontal header. -/
def choose (os2 hhea : Option ByteArray) : LineMetrics :=
  let header := (hhea >>= ofHeader?).getD {}
  match os2 with
  | none => header
  | some os2 =>
    let typographic := (typographic? os2).getD {}
    if prefersTypographic os2 then typographic
    else if header.ascent ≠ 0 ∨ header.descent ≠ 0 then header
    else if typographic.ascent ≠ 0 ∨ typographic.descent ≠ 0 then typographic
    else (clipping? os2 header.gap).getD header

/-- The distance between baselines. -/
def height (m : LineMetrics) : Int := m.ascent - m.descent + m.gap

end LineMetrics

/-- Advances and side bearings. -/
structure HorizontalMetrics where
  bytes : ByteArray
  /-- How many glyphs have an advance of their own; the others share the last one. -/
  longCount : Nat

namespace HorizontalMetrics

/-- The metrics of a table; none when it is too short for `longCount` entries. -/
def ofTable? (b : ByteArray) (longCount : Nat) : Option HorizontalMetrics :=
  if 4 * longCount ≤ b.size then some ⟨b, longCount⟩ else none

/-- The advance of a glyph. -/
def advance? (m : HorizontalMetrics) (glyph : Nat) : Option Nat :=
  if m.longCount = 0 then none else u16? m.bytes (4 * min glyph (m.longCount - 1))

/-- The left side bearing of a glyph, zero when it has none. -/
def sideBearing (m : HorizontalMetrics) (glyph : Nat) : Int :=
  (if glyph < m.longCount then i16? m.bytes (4 * glyph + 2)
   else i16? m.bytes (4 * m.longCount + 2 * (glyph - m.longCount))).getD 0

end HorizontalMetrics

/-- The numbers of a font that concern all of its glyphs. -/
structure FontMetrics where
  unitsPerEm : Nat
  lineHeight : Float
  glyphCount : Nat
  horizontal : Option HorizontalMetrics

namespace FontMetrics

/-- The head table, if it is whole. -/
def head? (c : Container) : Option ByteArray := do
  slice? (← c.table? "head") 0 54

/-- The horizontal header, if it is whole. -/
def header? (c : Container) : Option ByteArray := do
  slice? (← c.table? "hhea") 0 36

/-- The number of glyphs a font declares. -/
def declaredGlyphs? (c : Container) : Option Nat := do
  let maxp ← c.table? "maxp"
  u16? maxp 4

/-- The metrics of a font. A font without an em square has one of 1000 units; one whose lines have
no height gets six fifths of the em. -/
def ofContainer (c : Container) : FontMetrics :=
  let declared := (head? c >>= fun head => u16? head 18).getD 0
  let unitsPerEm := if declared = 0 then 1000 else declared
  let header := header? c
  let os2 := c.table? "OS/2" >>= fun b => slice? b 0 78
  let height := (LineMetrics.choose os2 header).height
  { unitsPerEm
    lineHeight := if 0 < height then Float.ofInt height else Float.ofNat unitsPerEm * 1.2
    glyphCount := (declaredGlyphs? c).getD 0
    horizontal := do
      let longCount ← u16? (← header) 34
      HorizontalMetrics.ofTable? (← c.table? "hmtx") longCount }

/-- The advance of a glyph, zero when it is unknown. -/
def advance (m : FontMetrics) (glyph : Nat) : Float :=
  if glyph < m.glyphCount then
    match m.horizontal >>= (·.advance? glyph) with
    | some n => Float.ofNat n
    | none => 0
  else 0

end FontMetrics

end Lettering.Sfnt
