import Lettering.Layout.Anchor
import Lettering.Shaping.Basic

/-!
# Composing a text

Shaping, tracing, placing and anchoring in one step: `compose` takes lines to an anchored path and
the block it was made from.
-/

namespace Lettering

/-- A composed text. -/
structure ComposedText where
  path : List PathCommand := []
  block : TextBlock := {}

/-- Shape `lines`, place them and move them to `anchor`. -/
def compose (face : Face) (lines : List Line) (shaper : Shaper) (spacing : Spacing)
    (anchor : Vec) : ComposedText :=
  let runs := shaper.runs face lines
  let table := GlyphTable.build face runs spacing.gridFit
  let block := TextBlock.layout face spacing table runs
  { path := block.anchored anchor, block }

end Lettering
