import Lettering.Error
import Lettering.Face
import Lettering.Sfnt.CharMap
import Lettering.Sfnt.Cff
import Lettering.Sfnt.Kern
import Lettering.Sfnt.TrueType

/-!
# Faces of font files

`faceOfBytes` makes a face from the bytes of a font file. Outlines are recorded from the drawing
calls of the font in font units; grid fitting changes nothing for fonts without a working hinting
program. A missing table costs what it would have told: without a character map no character has
a glyph, without outlines no glyph loads.
-/

namespace Lettering.Sfnt

/-- The outlines of a font. -/
inductive OutlineStore
  | quadratic (store : GlyphStore)
  | cubic (programs : Array ByteArray)
  | none

namespace OutlineStore

/-- The outlines that a font has. -/
def ofContainer (c : Container) (metrics : FontMetrics) : OutlineStore :=
  match GlyphStore.ofContainer? c metrics with
  | some store => quadratic store
  | .none =>
    match c.table? "CFF " >>= cffPrograms? with
    | some programs => cubic programs
    | .none => none

/-- The drawing calls of a glyph. -/
def draw? : OutlineStore → Nat → Option (List PenCall)
  | quadratic store, glyph => store.draw? glyph
  | cubic programs, glyph => programs[glyph]? >>= cffDraw?
  | none, _ => Option.none

end OutlineStore

namespace KernPairs

/-- The kerning of a font; none if it has no table for it, or one with a header that is cut off. -/
def ofContainer? (c : Container) : Option KernPairs := c.table? "kern" >>= ofBytes?

/-- The adjustment between two glyphs of a font with the given kerning. Adjustments are whole
numbers, so that it does not matter whether they are to be rounded. -/
def lookUp (kern : Option KernPairs) (left right : GlyphId) : Float :=
  match kern with
  | none => 0
  | some pairs => Float.ofInt (pairs.pair left right)

end KernPairs

/-- The face of index `index` in the bytes of a font file, held in the given buffer. -/
def faceOfBytes (bytes : ByteArray) (index buffer : Nat) : Except FontError Face :=
  match Container.ofBytes bytes index with
  | .error _ => .error .invalidData
  | .ok c =>
    let metrics := FontMetrics.ofContainer c
    let outlines := OutlineStore.ofContainer c metrics
    let charMap := c.table? "cmap" >>= CharMap.ofTable?
    let kern := KernPairs.ofContainer? c
    let hasKerning := kern.any fun pairs => !pairs.isEmpty
    .ok {
      bytes
      buffer
      index
      unitsPerEm := metrics.unitsPerEm
      lineHeight := metrics.lineHeight
      glyphOf := fun c => charMap >>= (·.get? c)
      loadGlyph := fun glyph _ => do
        let calls ← outlines.draw? glyph
        return { outline := PenCall.record calls, advance := ⟨metrics.advance glyph, 0⟩ }
      hasKerning
      kerning := fun left right _ => if hasKerning then KernPairs.lookUp kern left right else 0 }

end Lettering.Sfnt
