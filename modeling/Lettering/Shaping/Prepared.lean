import Lettering.Sfnt.CharMap
import Lettering.Shaping.Basic

/-!
# Shaping with prepared fonts

This shaper reads the font's own bytes rather than asking the face, and keeps what it has prepared
for a font so that the next span need not prepare it again. `KeptFonts.shape` is one call with the
fonts kept so far; `ShapingEngine.shape` is the same answer with nothing kept.

Fonts are kept by the buffer they were loaded into, its length, the index of the face and a mark of
the first bytes of the buffer. At most `KeptFonts.limit` are kept: when one more is needed, all are
dropped.

How a font is opened, what is prepared from it and how glyphs are found with that is the business of
a `ShapingEngine`. `ShapingEngine.characterMap` finds them in the character map of the font;
`PreparedFonts` are the fonts kept for it.
-/

namespace Lettering

/-- What does the shaping: it opens fonts, prepares data from them and finds glyphs with both. -/
structure ShapingEngine where
  /-- A font that has been opened. -/
  Font : Type
  /-- What is prepared from a font. -/
  Prepared : Type
  /-- A writing system. -/
  Script : Type
  /-- What a run of bytes is told apart by. -/
  Mark : Type
  [decidableEqMark : DecidableEq Mark]
  /-- The font of the given index in a file, or the wording of the failure. -/
  openFont : ByteArray → Nat → Except String Font
  /-- Prepare a font. -/
  prepare : Font → Prepared
  /-- The writing system of a code. -/
  script? : ScriptTag → Option Script
  /-- The glyphs of a text from left to right, in a writing system if one is given. -/
  glyphs : Prepared → Font → Option Script → String → List GlyphId
  /-- The mark of some bytes. -/
  mark : List UInt8 → Mark

/-- How many bytes at the start of a font tell it apart. -/
def fingerprintSize : Nat := 1024

/-- What a font is kept under. -/
structure FontKey (Mark : Type) where
  buffer : Nat
  length : Nat
  index : Nat
  fingerprint : Mark
  deriving DecidableEq

namespace ShapingEngine

attribute [instance] ShapingEngine.decidableEqMark

variable (E : ShapingEngine)

/-- The key of a face. -/
def key (f : Face) : FontKey E.Mark where
  buffer := f.buffer
  length := f.bytes.size
  index := f.index
  fingerprint := E.mark (f.bytes.extract 0 fingerprintSize).data.toList

/-- The font inside a face, or why there is none. -/
def fontOf (f : Face) : Except Error E.Font :=
  if f.bytes.isEmpty then .error (.shaping (.backend "face exposes no font data"))
  else
    match E.openFont f.bytes f.index with
    | .ok font => .ok font
    | .error e => .error (.shaping (.backend ("harfrust rejected the face: " ++ e)))

/-- The writing system to shape in; codes that name none of their own leave it open. -/
def scriptOf (tag : ScriptTag) : Option E.Script :=
  if tag.isNeutral then none else E.script? tag

/-- The glyphs of a span. -/
def spanGlyphs (prepared : E.Prepared) (font : E.Font) (span : Span) : List GlyphId :=
  E.glyphs prepared font (span.script.bind E.scriptOf) span.text

/-- Shape a span with a font prepared for it alone. -/
def shape (span : Span) (f : Face) : Except Error (List GlyphId) :=
  if span.chars.isEmpty then .ok []
  else (E.fontOf f).map fun font => E.spanGlyphs (E.prepare font) font span

end ShapingEngine

/-- The fonts kept, latest first. -/
structure KeptFonts (E : ShapingEngine) where
  fonts : List (FontKey E.Mark × E.Prepared) := []

namespace KeptFonts

variable {E : ShapingEngine}

/-- How many fonts are kept. -/
def limit : Nat := 32

/-- How many fonts are kept now. -/
def size (p : KeptFonts E) : Nat := p.fonts.length

/-- Keep one more font, and it alone if there is no room for it. -/
def keep (p : KeptFonts E) (key : FontKey E.Mark) (prepared : E.Prepared) : KeptFonts E :=
  ⟨(key, prepared) :: if limit ≤ p.size then [] else p.fonts⟩

/-- The prepared form of a font, prepared now if it is not kept. -/
def prepare (p : KeptFonts E) (key : FontKey E.Mark) (font : E.Font) : E.Prepared × KeptFonts E :=
  match p.fonts.lookup key with
  | some prepared => (prepared, p)
  | none => (E.prepare font, p.keep key (E.prepare font))

/-- Shape one span. A span without characters, or a face without a font, changes nothing. -/
def shape (p : KeptFonts E) (span : Span) (f : Face) :
    Except Error (List GlyphId) × KeptFonts E :=
  if span.chars.isEmpty then (.ok [], p)
  else
    match E.fontOf f with
    | .error e => (.error e, p)
    | .ok font =>
      let (prepared, p) := p.prepare (E.key f) font
      (.ok (E.spanGlyphs prepared font span), p)

/-- How the kept fonts appear in a listing of values. -/
def inspect (p : KeptFonts E) : String :=
  Listing.record "HarfrustShaper" [("cached_faces", toString p.size)]

end KeptFonts

/-- What is prepared from a font: its character map. -/
structure PreparedFont where
  charMap : Option Sfnt.CharMap

namespace PreparedFont

/-- Prepare a font. -/
def ofContainer (c : Sfnt.Container) : PreparedFont :=
  ⟨c.table? "cmap" >>= Sfnt.CharMap.ofTable?⟩

/-- The glyphs of some characters from left to right. -/
def glyphs (p : PreparedFont) (chars : List Char) : List GlyphId :=
  chars.map fun c => ((p.charMap >>= (·.get? c)).getD missingGlyph)

end PreparedFont

/-- One glyph for each character through the character map in the font, whatever the script. -/
def ShapingEngine.characterMap : ShapingEngine where
  Font := Sfnt.Container
  Prepared := PreparedFont
  Script := ScriptTag
  Mark := List UInt8
  openFont := fun b index => (Sfnt.Container.ofBytes b index).mapError (·.message)
  prepare := .ofContainer
  script? := some
  glyphs := fun prepared _ _ text => prepared.glyphs text.toList
  mark := id

/-- The fonts kept for shaping through character maps. -/
abbrev PreparedFonts := KeptFonts .characterMap

namespace Shaper

/-- The shaper that reads the bytes of the font. -/
def prepared : Shaper where
  name := "harfrust"
  shape := ShapingEngine.characterMap.shape

end Shaper

end Lettering
