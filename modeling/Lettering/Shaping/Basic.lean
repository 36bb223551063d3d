import Lettering.Error
import Lettering.Face
import Lettering.Text.Segment

/-!
# Shaping

A `Shaper` turns a span into glyphs of a face. Spans come in display order, so glyphs run from
left to right. `Shaper.runs?` shapes all lines into one run of glyphs each, leaving out spans
without characters; the first failure is the answer. `Shaper.runs` gives no runs then.
-/

namespace Lettering

/-- Turns spans into glyphs. -/
structure Shaper where
  name : String
  shape : Span → Face → Except Error (List GlyphId)

namespace Shaper

/-- One glyph for each character through the character map of the face. -/
def characterMap : Shaper where
  name := "none"
  shape := fun span face => .ok (span.chars.map face.glyphOrMissing)

/-- The glyphs of a line. -/
def run? (s : Shaper) (face : Face) (line : Line) : Except Error (List GlyphId) := do
  return (← (line.spans.filter fun span => !span.chars.isEmpty).mapM (s.shape · face)).flatten

/-- The glyphs of all lines. -/
def runs? (s : Shaper) (face : Face) (lines : List Line) : Except Error (List (List GlyphId)) :=
  lines.mapM (s.run? face)

/-- The glyphs of all lines, none at all if a span cannot be shaped. -/
def runs (s : Shaper) (face : Face) (lines : List Line) : List (List GlyphId) :=
  match s.runs? face lines with
  | .ok runs => runs
  | .error _ => []

/-- How a shaper appears in a listing of values. -/
def inspect (s : Shaper) : String :=
  Listing.record "GlyphShaper" [("shaper", "\"" ++ s.name ++ "\"")]

end Shaper

end Lettering
