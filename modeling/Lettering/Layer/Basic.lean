import Lettering.Font.Resolve
import Lettering.Layer.Params
import Lettering.Layer.Placement
import Lettering.Layout.Compose

/-!
# Layers of text

A `TextLayer` holds the parameters of a piece of text, the document it belongs to, and what the last
sync made of them. Edits change the parameters and note what they make stale; nothing is recomputed
until the next sync.
-/

namespace Lettering

/-- What layers share, except for the faces remembered. Faces are handled as values of type `F`. -/
structure TextContext (F : Type) where
  /-- What a handle stands for. -/
  view : F → Face
  shaper : Shaper := .characterMap
  segmenter : Segmenter := {}
  config : SearchConfig := {}

/-- What decides which face a layer gets. -/
structure FaceQuestion where
  identity : FontIdentity
  documentDir : Option String
  font : String

/-- Whether two paths are the same, if there are any. -/
def samePath? : Option String → Option String → Bool
  | none, none => true
  | some a, some b => Path.same a b
  | _, _ => false

namespace FaceQuestion

/-- Whether two questions have the same answer. -/
def same (a b : FaceQuestion) : Bool :=
  a.identity == b.identity && samePath? a.documentDir b.documentDir && a.font == b.font

end FaceQuestion

/-- A piece of text in a document. -/
structure TextLayer (F : Type) where
  params : LayerParams := {}
  /-- What is stale. -/
  pending : Changes := .everything
  /-- The path of the document. -/
  document : Option String := none
  face : Option (ResolvedFace F) := none
  /-- The question that `face` answers. -/
  asked : Option FaceQuestion := none
  lines : List Line := []
  block : TextBlock := {}
  path : List PathCommand := []
  /-- What the last sync answered. -/
  geometry : Option TextGeometry := none

namespace TextLayer

variable {F : Type}

/-- The directory of the document. -/
def documentDir (l : TextLayer F) : Option String := l.document.bind Path.parent?

/-- The name of the document without its extension. -/
def documentStem (l : TextLayer F) : Option String := l.document.bind Path.fileStem?

/-- The question the layer has about its face. -/
def question (l : TextLayer F) : FaceQuestion :=
  { identity := l.params.identity, documentDir := l.documentDir, font := l.params.font }

/-- Whether the family is the name of a file that is looked for next to the document. -/
def familyIsRelativeFile (l : TextLayer F) : Bool :=
  hasFontExtension l.params.family && !Path.isAbsolute l.params.family

/-! ## Edits -/

/-- Note that something is stale. -/
def mark (l : TextLayer F) (changes : Changes) : TextLayer F :=
  { l with pending := l.pending ∪ changes }

/-- Work on the parameters of a layer. -/
def onParams {α : Type} (work : StateM LayerParams α) : StateM (TextLayer F) α := fun l =>
  let (answer, params) := work.run l.params
  (answer, { l with params })

/-- Write a parameter by name, and note what the write makes stale. -/
def store (name : String) (v : ParamValue) : ExceptT ParamError (StateM (TextLayer F)) Changes := do
  let changes ← ExceptT.mk (onParams (LayerParams.store name v).run)
  modify (·.mark changes)
  return changes

/-- Write a parameter by name, for a host that goes on with the layer that a write leaves. -/
def setParam (l : TextLayer F) (name : String) (v : ParamValue) :
    Except ParamError (Changes × TextLayer F) :=
  let (answer, after) := (store name v).run.run l
  answer.map (·, after)

/-- Move the layer to a document. A family that is the name of a file is looked for again next to
the new document, and a text that stands for the name of the document is made again. -/
def setDocument (l : TextLayer F) (document : Option String) : Changes × TextLayer F :=
  if samePath? l.document document then (.empty, l)
  else
    let reload := l.familyIsRelativeFile
    let rename := l.params.text == fileNameSentinel
    let changes := (if reload then .only .font else .empty) ∪
      (if rename then .only .text else .empty)
    let params := if reload then { l.params with font := "" } else l.params
    (changes, { l with document, params }.mark changes)

end TextLayer

end Lettering
