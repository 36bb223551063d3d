import Lettering.Layout.Block

/-!
# Anchoring a block of lines

An anchor is a point given as fractions: of the width of each line, and of the height of the
block. `TextBlock.anchored` moves every line so that the anchor comes to lie on the origin; each
line is justified on its own width, and the block moves up or down as one.
-/

namespace Lettering

/-- The centre of the text. -/
def centreAnchor : Vec := ⟨0.5, 0.5⟩

namespace TextBlock

/-- The displacement of one line of a block. -/
def anchorShift (b : TextBlock) (anchor : Vec) (line : PlacedLine) : Vec :=
  ⟨-anchor.x * line.width, anchor.y * b.height - b.ascent⟩

/-- All lines in one path, top line first, each moved to the anchor. -/
def anchored (b : TextBlock) (anchor : Vec) : List PathCommand :=
  b.lines.flatMap fun line => line.path.map (·.shift (b.anchorShift anchor line))

end TextBlock

end Lettering
