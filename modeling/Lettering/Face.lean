import Lettering.Outline.Tagged

/-!
# Faces

A `Face` is a loaded font as the rest of the library sees it: a character map, outlines and
advances in font units, and kerning. Faces come from font files, or are given directly by
whoever drives the library.
-/

namespace Lettering

/-- The number of a glyph within its face. -/
abbrev GlyphId := Nat

/-- The glyph every face reserves for characters it lacks. -/
def missingGlyph : GlyphId := 0

/-- How kerning is asked for. -/
inductive KerningMode
  /-- Rounded to whole units, to go with grid-fitted outlines. -/
  | fitted
  /-- As the font states it. -/
  | unfitted
  deriving DecidableEq, Repr

namespace KerningMode

/-- The mode that goes with a grid-fit setting. -/
def forGridFit : Bool → KerningMode
  | true => fitted
  | false => unfitted

end KerningMode

/-- A glyph as the face stores it. -/
structure RawGlyph where
  outline : Outline := {}
  /-- How far the pen moves after the glyph. -/
  advance : Vec := .zero
  deriving Inhabited

/-- A loaded face. All measures are in font units. -/
structure Face where
  /-- The bytes of the font. -/
  bytes : ByteArray := .empty
  /-- Which buffer the bytes were loaded into: two loads of one file differ here. -/
  buffer : Nat := 0
  /-- The face's place within a collection file. -/
  index : Nat := 0
  /-- Font units per em. -/
  unitsPerEm : Nat
  /-- The distance between baselines. -/
  lineHeight : Float
  /-- The character map. -/
  glyphOf : Char → Option GlyphId
  /-- The outline and advance of a glyph, grid-fitted on request; none for a glyph that cannot be
  loaded. -/
  loadGlyph : GlyphId → Bool → Option RawGlyph
  /-- Whether the face carries kerning. -/
  hasKerning : Bool := false
  /-- The horizontal adjustment between two neighbours. -/
  kerning : GlyphId → GlyphId → KerningMode → Float := fun _ _ _ => 0

instance : Inhabited Face :=
  ⟨{ unitsPerEm := 1000, lineHeight := 1200, glyphOf := fun _ => none,
     loadGlyph := fun _ _ => none }⟩

namespace Face

/-- The glyph of a character, or the missing glyph. -/
def glyphOrMissing (f : Face) (c : Char) : GlyphId :=
  (f.glyphOf c).getD missingGlyph

end Face

end Lettering
