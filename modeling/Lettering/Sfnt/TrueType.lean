import Lettering.Outline.Pen
import Lettering.Sfnt.Metrics

/-!
# TrueType outlines

Glyphs made of quadratic contours. A simple glyph lists its points; a composite one puts others
side by side. Drawing opens every contour on the curve, makes implied points explicit and closes
it; glyphs are moved so that their left edge lies at their side bearing.
-/

namespace Lettering.Sfnt

/-- A point of a quadratic contour. -/
structure GlyphPoint where
  x : Int
  y : Int
  onCurve : Bool
  deriving Inhabited

/-- The contours of a glyph, and how far it is to be moved to the left. -/
structure GlyphShape where
  contours : List (List GlyphPoint) := []
  edge : Int := 0

/-- Where the glyphs of a font are. -/
structure GlyphStore where
  glyf : ByteArray
  loca : ByteArray
  longOffsets : Bool
  metrics : FontMetrics
  horizontal : HorizontalMetrics

namespace GlyphStore

/-- The store of a font; none if one of its tables is missing. -/
def ofContainer? (c : Container) (metrics : FontMetrics) : Option GlyphStore := do
  let head ← FontMetrics.head? c
  return {
    glyf := ← c.table? "glyf"
    loca := ← c.table? "loca"
    longOffsets := (← u16? head 50) == 1
    metrics
    horizontal := ← metrics.horizontal }

/-- An offset of the index. -/
def offset? (s : GlyphStore) (i : Nat) : Option Nat :=
  if s.longOffsets then u32? s.loca (4 * i) else (· * 2) <$> u16? s.loca (2 * i)

/-- The bytes of a glyph, empty for a glyph without an outline. -/
def bytes? (s : GlyphStore) (glyph : Nat) : Option ByteArray := do
  let start ← s.offset? glyph
  let stop ← s.offset? (glyph + 1)
  if stop < start then none else slice? s.glyf start (stop - start)

end GlyphStore

/-- The flags of `count` points, repeats written out, and the place behind them. -/
def readFlags (b : ByteArray) (i : Nat) : Nat → Option (List Nat × Nat)
  | 0 => some ([], i)
  | count + 1 => do
    let flag ← u8? b i
    if flag / 8 % 2 = 1 then
      let repeats := min (← u8? b (i + 1)) count
      let (flags, stop) ← readFlags b (i + 2) (count - repeats)
      return (List.replicate (repeats + 1) flag ++ flags, stop)
    else
      let (flags, stop) ← readFlags b (i + 1) count
      return (flag :: flags, stop)
termination_by count => count

/-- Coordinates along one axis, each relative to the one before, and the place behind them. `short`
is the bit of one-byte distances; `same` is their sign, or marks an unchanged coordinate. -/
def readCoordinates (b : ByteArray) (short same : Nat) (i : Nat) (before : Int) :
    List Nat → Option (List Int × Nat)
  | [] => some ([], i)
  | flag :: flags => do
    let isShort := flag / short % 2 = 1
    let isSame := flag / same % 2 = 1
    let (here, next) ←
      if isShort then do
        let d ← u8? b i
        pure (if isSame then before + d else before - d, i + 1)
      else if isSame then pure (before, i)
      else do pure (before + (← i16? b i), i + 2)
    let (rest, stop) ← readCoordinates b short same next here flags
    return (here :: rest, stop)

/-- Cut a list into pieces that end at the given indices. -/
def cutAt {α : Type} (start : Nat) : List Nat → List α → List (List α)
  | [], _ => []
  | stop :: stops, xs =>
    xs.take (stop + 1 - start) :: cutAt (stop + 1) stops (xs.drop (stop + 1 - start))

/-- Read the contours of a simple glyph. -/
def readSimple (b : ByteArray) (contours : Nat) : Option (List (List GlyphPoint)) := do
  let ends ← u16s? b 10 contours
  let count := match ends.getLast? with
    | some last => last + 1
    | none => 0
  let codeLength ← u16? b (10 + 2 * contours)
  let (flags, xStart) ← readFlags b (12 + 2 * contours + codeLength) count
  let (xs, yStart) ← readCoordinates b 2 16 xStart 0 flags
  let (ys, _) ← readCoordinates b 4 32 yStart 0 flags
  let points := (flags.zip (xs.zip ys)).map fun (flag, x, y) => ⟨x, y, flag % 2 == 1⟩
  return cutAt 0 ends points

/-- A part of a composite glyph. -/
structure Component where
  glyph : Nat
  dx : Int
  dy : Int
  /-- Whether the composite takes the metrics of this part. -/
  givesMetrics : Bool

/-- Read the parts of a composite glyph, at most `fuel` of them. -/
def readComponents (b : ByteArray) : Nat → Nat → Option (List Component)
  | 0, _ => none
  | fuel + 1, i => do
    let flags ← u16? b i
    let glyph ← u16? b (i + 2)
    let wide := flags % 2 = 1
    let offsets := flags / 2 % 2 = 1
    let (dx, dy) ←
      if wide then do pure (← i16? b (i + 4), ← i16? b (i + 6))
      else do pure (signed8 (← u8? b (i + 4)), signed8 (← u8? b (i + 5)))
    let scale :=
      if flags / 8 % 2 = 1 then 2 else if flags / 64 % 2 = 1 then 4
      else if flags / 128 % 2 = 1 then 8 else 0
    let part : Component :=
      { glyph, dx := if offsets then dx else 0, dy := if offsets then dy else 0,
        givesMetrics := flags / 512 % 2 == 1 }
    if flags / 32 % 2 = 1 then
      return part :: (← readComponents b fuel (i + (if wide then 8 else 6) + scale))
    else return [part]

/-- How deep composite glyphs may be nested. -/
def compositeLimit : Nat := 32

/-- The shape of a glyph; none if it cannot be read. -/
def shapeOf? (s : GlyphStore) : Nat → Nat → Option GlyphShape
  | 0, _ => none
  | depth + 1, glyph => do
    let b ← s.bytes? glyph
    if b.size = 0 then return { edge := -s.horizontal.sideBearing glyph }
    let contours ← i16? b 0
    let edge := (← i16? b 2) - s.horizontal.sideBearing glyph
    if 0 ≤ contours then return { contours := ← readSimple b contours.toNat, edge }
    let parts ← readComponents b b.size 10
    parts.foldlM (fun (shape : GlyphShape) part => do
      let inner ← shapeOf? s depth part.glyph
      let moved := inner.contours.map (·.map fun p =>
        { p with x := p.x + part.dx, y := p.y + part.dy })
      return { contours := shape.contours ++ moved
               edge := if part.givesMetrics then inner.edge else shape.edge }) { edge }

namespace GlyphPoint

/-- The point in the plane. -/
def toPoint (p : GlyphPoint) : Point := ⟨Float.ofInt p.x, Float.ofInt p.y⟩

end GlyphPoint

/-- The calls behind the opening move of a contour; `control` waits for its end point. -/
def drawRest (start : Point) (control : Option Point) : List GlyphPoint → List PenCall
  | [] =>
    match control with
    | some c => [.quad c start, .close]
    | none => [.close]
  | p :: rest =>
    if p.onCurve then
      match control with
      | some c => .quad c p.toPoint :: drawRest start none rest
      | none => .line p.toPoint :: drawRest start none rest
    else
      match control with
      | some c => .quad c (c.midpoint p.toPoint) :: drawRest start (some p.toPoint) rest
      | none => drawRest start (some p.toPoint) rest

/-- The calls that draw a contour. -/
def drawContour (points : List GlyphPoint) : List PenCall :=
  match points.head?, points.getLast? with
  | some first, some last =>
    if first.onCurve then .move first.toPoint :: drawRest first.toPoint none points.tail
    else if last.onCurve then .move last.toPoint :: drawRest last.toPoint none points.dropLast
    else
      let start := first.toPoint.midpoint last.toPoint
      .move start :: drawRest start none points
  | _, _ => []

namespace GlyphShape

/-- The calls that draw a shape, moved to its edge. -/
def calls (s : GlyphShape) : List PenCall :=
  s.contours.flatMap fun contour => drawContour (contour.map fun p => { p with x := p.x - s.edge })

end GlyphShape

namespace GlyphStore

/-- The calls that draw a glyph; none if it cannot be drawn. -/
def draw? (s : GlyphStore) (glyph : Nat) : Option (List PenCall) :=
  if glyph < s.metrics.glyphCount then
    (shapeOf? s (compositeLimit + 1) glyph).map (·.calls)
  else none

end GlyphStore

end Lettering.Sfnt
