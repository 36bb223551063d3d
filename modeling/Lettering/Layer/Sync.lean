import Lettering.Layer.Basic

/-!
# Bringing a layer up to date

`TextLayer.sync` does what the pending changes ask for and no more, in this order: find the face, cut
the text into lines, compose them, place the result. Finding the face is the only step that needs
help from outside; it is left out when the question is the one answered last. A layer without a face
has nothing to draw.
-/

namespace Lettering

/-- The units per em of a layer without a face. -/
def fallbackUnitsPerEm : Nat := 1000

namespace TextLayer

variable {F : Type}

/-- Find the face, unless the question is still the one that was answered. The path of a file that
was just loaded becomes a parameter, and part of the question. -/
def findFace (ctx : TextContext F) (l : TextLayer F) : FontQuery F (TextLayer F) :=
  if l.asked.any l.question.same then .done l
  else do
    let request : FontRequest := {
      family := l.params.family, slant := l.params.slant, weight := l.params.weight
      documentDir := l.documentDir, fontFile := some l.params.font }
    let face := (← ctx.config.resolve request).toOption
    let font := (face.bind (·.path?)).getD l.params.font
    let l := { l with face, params := { l.params with font } }
    return { l with asked := some l.question }

/-- The lines of the text as it stands. -/
def currentLines (ctx : TextContext F) (l : TextLayer F) : List Line :=
  ctx.segmenter.segment (l.params.expandedText l.documentStem) l.params.direction

/-- The lines, composed in the face of the layer. -/
def composed (ctx : TextContext F) (l : TextLayer F) : ComposedText :=
  match l.face with
  | none => {}
  | some resolved =>
    compose (ctx.view resolved.face) l.lines ctx.shaper l.params.spacing l.params.orient

/-- The path, placed in the layer. -/
def placed (ctx : TextContext F) (l : TextLayer F) : TextGeometry :=
  let unitsPerEm := match l.face with
    | none => fallbackUnitsPerEm
    | some resolved => (ctx.view resolved.face).unitsPerEm
  .place l.path l.params.origin l.params.size unitsPerEm

/-- Make the lines again. -/
def renewLines (ctx : TextContext F) (l : TextLayer F) : TextLayer F :=
  { l with lines := l.currentLines ctx }

/-- Compose the lines again. -/
def renewPath (ctx : TextContext F) (l : TextLayer F) : TextLayer F :=
  let c := l.composed ctx
  { l with path := c.path, block := c.block }

/-- Place the path again. -/
def renewGeometry (ctx : TextContext F) (l : TextLayer F) : TextLayer F :=
  { l with geometry := some (l.placed ctx) }

/-- Do what some changes ask for. The first time, everything is composed. -/
def update (ctx : TextContext F) (changes : Changes) (l : TextLayer F) :
    FontQuery F (TextLayer F) := do
  let first := l.geometry.isNone
  let l ← if changes.needsFace then l.findFace ctx else pure l
  let l := if changes.needsLines then l.renewLines ctx else l
  let l := if changes.needsLayout || first then l.renewPath ctx else l
  return l.renewGeometry ctx

/-- Bring a layer up to date, and give what there is to draw. -/
def sync (ctx : TextContext F) (l : TextLayer F) : FontQuery F (TextGeometry × TextLayer F) :=
  let rest := { l with pending := .empty }
  match l.pending.isEmpty, l.geometry with
  | true, some geometry => .done (geometry, rest)
  | _, _ => do
    let l ← rest.update ctx l.pending
    return (l.placed ctx, l)

end TextLayer

end Lettering
