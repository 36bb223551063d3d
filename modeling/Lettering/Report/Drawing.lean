import Lettering.Decimal.Style
import Lettering.Layer.Placement

/-!
# Drawings in SVG

A placed text as a drawing of its own. The vertical axis of a drawing points down, so the path is
turned over and the frame with it; a frame has at least the size of one unit.
-/

namespace Lettering

/-- A number in a drawing. -/
def drawnNumber (x : Float) : String := Decimal.drawingStyle.write x

namespace Point

/-- A position in a drawing. -/
def drawn (p : Point) : String := drawnNumber p.x ++ "," ++ drawnNumber p.y

end Point

namespace PathElement

/-- A drawing element as a command of a drawing. -/
def drawn : PathElement → String
  | move p => "M" ++ p.drawn
  | line p => "L" ++ p.drawn
  | quad c p => "Q" ++ c.drawn ++ " " ++ p.drawn
  | curve c d p => "C" ++ c.drawn ++ " " ++ d.drawn ++ " " ++ p.drawn
  | close => "Z"

end PathElement

namespace TextGeometry

/-- The part of the plane that a drawing shows: its corner and its size. -/
def frame (g : TextGeometry) : List Float :=
  let b := g.bounds
  [b.x0, -b.y1, greater (b.x1 - b.x0) 1, greater (b.y1 - b.y0) 1]

/-- The drawing of a placed text. -/
def drawing (g : TextGeometry) : String :=
  "<svg xmlns=\"http://www.w3.org/2000/svg\" viewBox=\"" ++
    " ".intercalate (g.frame.map drawnNumber) ++ "\">\n" ++
    "  <path transform=\"scale(1,-1)\" d=\"" ++ " ".intercalate (g.elements.map (·.drawn)) ++
    "\"/>\n</svg>"

end TextGeometry

end Lettering
