import Lettering.Layer.Sync
import Lettering.Report.Json

/-!
# Reports on layers

What a report says about a layer that has been brought up to date: the request, the face that was
found, the lines in font units, and the path in the layer's coordinates.
-/

namespace Lettering

namespace ReportValue

/-- A value that may be missing. -/
def ofOption {α : Type} (f : α → ReportValue) : Option α → ReportValue
  | some a => f a
  | none => null

end ReportValue

namespace Point

/-- A position in a report. -/
def report (p : Point) : ReportValue := .list [.number p.x, .number p.y]

end Point

namespace Rect

/-- A box in a report. -/
def report (r : Rect) : ReportValue := .list ([r.x0, r.y0, r.x1, r.y1].map .number)

end Rect

namespace PathCommand

/-- A path command in a report. -/
def report : PathCommand → ReportValue
  | moveTo p => .record [("op", .text "move"), ("to", p.report)]
  | lineTo p => .record [("op", .text "line"), ("to", p.report)]
  | conicTo p c => .record [("op", .text "conic"), ("to", p.report), ("control", c.report)]
  | cubicTo p c d =>
    .record [("op", .text "cubic"), ("to", p.report), ("control1", c.report),
      ("control2", d.report)]
  | close => .record [("op", .text "close")]

end PathCommand

namespace PlacedLine

/-- A line in a report. -/
def report (l : PlacedLine) : ReportValue :=
  .record [("width", .number l.width), ("baseline", .number l.baseline)]

end PlacedLine

namespace TextLayer

/-- The report on a layer and what it draws. -/
def report {F : Type} (ctx : TextContext F) (g : TextGeometry) (l : TextLayer F) : ReportValue :=
  let font := if l.params.font.isEmpty then none else some l.params.font
  let unitsPerEm := l.face.map fun resolved => (ctx.view resolved.face).unitsPerEm
  .record [
    ("text", .text l.params.text), ("family", .text l.params.family),
    ("font", .ofOption .text font), ("shaper", .text ctx.shaper.name),
    ("units_per_em", .ofOption .whole unitsPerEm), ("bounds", g.bounds.report),
    ("lines", .list (l.block.lines.map (·.report))), ("ascent", .number l.block.ascent),
    ("height", .number l.block.height), ("commands", .list (g.world.map (·.report)))]

end TextLayer

end Lettering
