import Lettering.Decimal.Style
import Lettering.Layer.Basic

/-!
# Layers in listings

How a layer and its context appear in a listing of values.
-/

namespace Lettering

/-- A number in a listing. -/
def listNumber (x : Float) : String := Decimal.listingStyle.write x

namespace Vec

/-- How a displacement appears in a listing of values. -/
def inspect (v : Vec) : String := Listing.record "Vec2" [("x", listNumber v.x), ("y", listNumber v.y)]

end Vec

namespace Point

/-- How a position appears in a listing of values. -/
def inspect (p : Point) : String := "(" ++ listNumber p.x ++ ", " ++ listNumber p.y ++ ")"

end Point

namespace Changes

/-- How a set of changes appears in a listing of values. -/
def inspect (c : Changes) : String :=
  Listing.wrap "SyncFlags"
    (if c.isEmpty then "0x0" else " | ".intercalate (c.toList.map Change.name))

end Changes

namespace LayerParams

/-- How parameters appear in a listing of values. -/
def inspect (p : LayerParams) : String :=
  Listing.record "LayerParams" [
    ("text", Quoted.text p.text), ("family", Quoted.text p.family), ("style", p.slant.name),
    ("weight", p.weight.inspect), ("direction", p.direction.name),
    ("size", p.size.inspect), ("orient", p.orient.inspect), ("origin", p.origin.inspect),
    ("compress", listNumber p.compress), ("vcompress", listNumber p.vcompress),
    ("font", Quoted.text p.font), ("use_kerning", toString p.useKerning),
    ("grid_fit", toString p.gridFit)]

end LayerParams

namespace TextLayer

/-- How a layer appears in a listing of values. -/
def inspect {F : Type} (l : TextLayer F) : String :=
  Listing.record "TextLayer" [
    ("params", l.params.inspect), ("pending", l.pending.inspect),
    ("document", Listing.option (l.document.map Quoted.path)),
    ("face", Listing.option (l.face.map (·.identity.inspect)))]

end TextLayer

namespace TextContext

/-- How a context with some faces remembered appears in a listing of values. -/
def inspect {F : Type} (ctx : TextContext F) (cache : FaceCache F) : String :=
  Listing.record "TextContext" [
    ("cached_faces", toString cache.size), ("shaper", ctx.shaper.inspect),
    ("bidi", toString ctx.segmenter.reorderer.isSome),
    ("scripts", toString ctx.segmenter.scripts.isSome)]

end TextContext

end Lettering
