import Lettering.Face
import Lettering.Outline.Trace

/-!
# Converted glyphs

A `GlyphTable` holds the traced outline of every glyph that a text uses. It is filled by going
through the glyphs of the text: one that has loaded, or is known not to load, is not asked for
again (`Gathered.ask`). Those that do not load are left out of the table. `GlyphTable.collect` is
written over an arbitrary monad, so that the questions put to the face can be counted;
`GlyphTable.build` asks a face directly.
-/

namespace Lettering

/-- A glyph ready to be placed. -/
structure Glyph where
  advance : Vec
  /-- The box around all points of the stored outline. -/
  bounds : Rect
  path : List PathCommand
  deriving Inhabited

namespace Glyph

/-- Trace a stored glyph. -/
def ofRaw (raw : RawGlyph) : Glyph where
  advance := raw.advance
  bounds := raw.outline.controlBox
  path := raw.outline.trace.path

end Glyph

/-- What has been found out about glyphs so far. -/
structure Gathered where
  /-- The glyphs that loaded, by number. -/
  entries : List (GlyphId × Glyph) := []
  /-- The glyphs that cannot be loaded. -/
  missing : List GlyphId := []

namespace Gathered

/-- Whether a glyph has been asked for. -/
def knows (g : Gathered) (id : GlyphId) : Bool :=
  (g.entries.lookup id).isSome || g.missing.contains id

/-- Note what a glyph loaded as, if it did. -/
def learn (g : Gathered) (id : GlyphId) : Option RawGlyph → Gathered
  | some raw => { g with entries := g.entries ++ [(id, .ofRaw raw)] }
  | none => { g with missing := g.missing ++ [id] }

/-- Ask for a glyph that has not been asked for. -/
def ask {m : Type → Type} [Monad m] (load : GlyphId → Bool → m (Option RawGlyph)) (gridFit : Bool)
    (g : Gathered) (id : GlyphId) : m Gathered := do
  if g.knows id then return g
  else return g.learn id (← load id gridFit)

end Gathered

/-- Glyphs by number, in the order in which they were first used. -/
structure GlyphTable where
  entries : List (GlyphId × Glyph) := []
  gridFit : Bool := false

namespace GlyphTable

/-- The distinct glyphs of some runs, in the order of first use. -/
def distinct (runs : List (List GlyphId)) : List GlyphId :=
  runs.flatten.eraseDups

/-- Ask for the glyphs of `runs` and keep those that load. -/
def collect {m : Type → Type} [Monad m] (load : GlyphId → Bool → m (Option RawGlyph))
    (runs : List (List GlyphId)) (gridFit : Bool) : m GlyphTable := do
  let gathered ← runs.flatten.foldlM (Gathered.ask load gridFit) {}
  return { entries := gathered.entries, gridFit }

/-- The glyphs of `runs`, loaded from `face`. -/
def build (face : Face) (runs : List (List GlyphId)) (gridFit : Bool) : GlyphTable :=
  Id.run (collect (fun id fit => pure (face.loadGlyph id fit)) runs gridFit)

/-- The glyph with a number, if it could be loaded. -/
def get? (t : GlyphTable) (id : GlyphId) : Option Glyph :=
  t.entries.lookup id

/-- Whether a glyph is in the table. -/
def contains (t : GlyphTable) (id : GlyphId) : Bool :=
  (t.get? id).isSome

/-- How many glyphs the table holds. -/
def size (t : GlyphTable) : Nat :=
  t.entries.length

end GlyphTable

end Lettering
