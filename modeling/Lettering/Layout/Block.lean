import Lettering.Layout.GlyphTable

/-!
# Placing runs of glyphs on lines

`TextBlock.layout` walks a pen along each run: kerning against the glyph before, the outline at
the pen, then the advance. Lines go downwards from the baseline at zero, one line step apart.
Across, `compress` multiplies advances and kerning; downwards, `vcompress` multiplies the line
height of the face. Each line is placed by `PlacedLine.place`, which knows nothing of the others.
-/

namespace Lettering

/-- The spacing of a text. -/
structure Spacing where
  /-- Multiplies advances and kerning. -/
  compress : Float := 1
  /-- Multiplies the line height. -/
  vcompress : Float := 1
  useKerning : Bool := true
  gridFit : Bool := false

/-- A line of placed glyphs, in font units. -/
structure PlacedLine where
  path : List PathCommand := []
  /-- Where the pen ends. -/
  width : Float := 0
  /-- The height at which the pen started. -/
  baseline : Float := 0

/-- The lines of a text before they are anchored. -/
structure TextBlock where
  lines : List PlacedLine := []
  /-- The highest top among the glyphs of the first line. -/
  ascent : Float := 0
  height : Float := 0
  /-- The distance between baselines. -/
  lineStep : Float := 0

/-- The pen while a line is placed. -/
structure Pen where
  position : Point
  /-- The glyph that the next one is kerned against; the missing glyph stands for none. -/
  previous : GlyphId

namespace Pen

/-- A pen at the start of a line. -/
def start (baseline : Float) : Pen := ⟨⟨0, baseline⟩, missingGlyph⟩

/-- Adjust the pen for the pair of the previous glyph and `id`. -/
def kern (pen : Pen) (face : Face) (spacing : Spacing) (id : GlyphId) : Pen :=
  if spacing.useKerning && face.hasKerning && pen.previous != missingGlyph && id != missingGlyph then
    let adjustment := face.kerning pen.previous id (.forGridFit spacing.gridFit)
    { pen with position.x := pen.position.x + adjustment * spacing.compress }
  else pen

/-- Move past a glyph. -/
def advance (pen : Pen) (spacing : Spacing) (id : GlyphId) (v : Vec) : Pen :=
  ⟨pen.position.shift ⟨v.x * spacing.compress, v.y⟩, id⟩

end Pen

namespace PlacedLine

/-- Place the rest of a run: the path drawn, and the pen behind it. A glyph that is not in the
table draws nothing, does not move the pen and is not kerned against. -/
def walk (face : Face) (spacing : Spacing) (table : GlyphTable) :
    Pen → List GlyphId → List PathCommand × Pen
  | pen, [] => ([], pen)
  | pen, id :: rest =>
    match table.get? id with
    | none => walk face spacing table { pen with previous := missingGlyph } rest
    | some glyph =>
      let pen := pen.kern face spacing id
      let drawn := glyph.path.map (·.shift pen.position.toVec)
      let (path, last) := walk face spacing table (pen.advance spacing id glyph.advance) rest
      (drawn ++ path, last)

/-- Place a run on a baseline. -/
def place (face : Face) (spacing : Spacing) (table : GlyphTable) (baseline : Float)
    (run : List GlyphId) : PlacedLine :=
  let (path, pen) := walk face spacing table (.start baseline) run
  { path, width := pen.position.x, baseline }

end PlacedLine

namespace TextBlock

/-- Place runs on baselines going down from `baseline` by `step`. -/
def placeLines (face : Face) (spacing : Spacing) (table : GlyphTable) (step : Float) :
    Float → List (List GlyphId) → List PlacedLine
  | _, [] => []
  | baseline, run :: rest =>
    .place face spacing table baseline run ::
      placeLines face spacing table step (baseline - step) rest

/-- The highest of the tops, zero when there are none. -/
def highest : List Float → Float
  | [] => 0
  | top :: rest => rest.foldl greater top

/-- The highest top among the glyphs of a run. -/
def ascentOf (table : GlyphTable) (run : List GlyphId) : Float :=
  highest ((run.filterMap table.get?).map (·.bounds.y1))

/-- Lay out the runs of a text. -/
def layout (face : Face) (spacing : Spacing) (table : GlyphTable) (runs : List (List GlyphId)) :
    TextBlock :=
  let lineStep := face.lineHeight * spacing.vcompress
  let ascent := ascentOf table (runs.headD [])
  { lines := placeLines face spacing table lineStep 0 runs
    ascent
    height := ascent + Float.ofNat (runs.length - 1) * lineStep
    lineStep }

/-- Whether no line has anything to draw. -/
def isBlank (b : TextBlock) : Bool :=
  b.lines.all (·.path.isEmpty)

/-- The width of the widest line, at least zero. -/
def maxWidth (b : TextBlock) : Float :=
  (b.lines.map (·.width)).foldl greater 0

end TextBlock

end Lettering
