import Lettering.Font.Query
import Lettering.Text.Blank

/-!
# Catalogues of installed fonts

A `FontCatalogue` knows faces by family, width, slant and weight. `FontCatalogue.choose?` picks one
for a request: among the faces of the family those of the nearest width, of these the preferred
slant, of these the nearest weight, and of these the first.
-/

namespace Lettering

/-- A face in a catalogue. -/
structure CatalogueFace where
  families : List String
  slant : Slant := .normal
  weight : Nat := 400
  /-- From 1, ultra-condensed, over 5, normal, to 9, ultra-expanded. -/
  width : Nat := 5
  /-- The file of the face, unless it is in memory. -/
  path : Option String
  index : Nat := 0

/-- Installed faces in order, and the families that general names stand for. -/
structure FontCatalogue where
  faces : List CatalogueFace := []
  sans : String := "Arial"
  serif : String := "Times New Roman"
  monospace : String := "Courier New"

/-- The largest of some numbers up to `n`. -/
def nearestBelow? (n : Nat) (xs : List Nat) : Option Nat := (xs.filter (· ≤ n)).max?

/-- The smallest of some numbers from `n` on. -/
def nearestAbove? (n : Nat) (xs : List Nat) : Option Nat := (xs.filter (n ≤ ·)).min?

namespace CatalogueFace

/-- The width that is asked for. -/
def normalWidth : Nat := 5

/-- The width to take: the normal one, else the nearest narrower, else the nearest wider one. -/
def chooseWidth? (widths : List Nat) : Option Nat :=
  nearestBelow? normalWidth widths <|> nearestAbove? normalWidth widths

/-- Slants in the order in which they serve a request. -/
def slantOrder : Slant → List Slant
  | .italic => [.italic, .oblique, .normal]
  | .oblique => [.oblique, .italic, .normal]
  | .normal => [.normal, .oblique, .italic]

/-- The weight to take for a request. The two middle weights serve each other before others do;
otherwise lighter faces come first up to 500 and heavier ones above. -/
def chooseWeight? (weight : Nat) (weights : List Nat) : Option Nat :=
  let below := nearestBelow? weight weights
  let above := nearestAbove? weight weights
  if weights.contains weight then some weight
  else if 400 ≤ weight && weight < 450 && weights.contains 500 then some 500
  else if 450 ≤ weight && weight ≤ 500 && weights.contains 400 then some 400
  else if weight ≤ 500 then below <|> above
  else above <|> below

/-- The best of some faces. -/
def best? (faces : List CatalogueFace) (slant : Slant) (weight : Nat) : Option CatalogueFace := do
  let width ← chooseWidth? (faces.map (·.width))
  let faces := faces.filter (·.width == width)
  let slant ← (slantOrder slant).find? fun s => faces.any (·.slant == s)
  let faces := faces.filter (·.slant == slant)
  let weight ← chooseWeight? weight (faces.map (·.weight))
  faces.find? (·.weight == weight)

end CatalogueFace

namespace FontCatalogue

/-- The family that a name stands for in a catalogue. -/
def familyName (c : FontCatalogue) (family : String) : String :=
  let name := trimBlanks family
  if ["sans serif", "sans-serif", "sans"].any (sameIgnoringCase name) then c.sans
  else if sameIgnoringCase name "serif" then c.serif
  else if ["monospace", "mono"].any (sameIgnoringCase name) then c.monospace
  else name

/-- The face for a request. Weights are taken between 1 and 1000. -/
def choose? (c : FontCatalogue) (family : String) (slant : Slant) (weight : Weight) :
    Option CatalogueFace :=
  if trimBlanks family = "" then none
  else
    let name := c.familyName family
    let weight := (max 1 (min 1000 weight.value)).toNat
    CatalogueFace.best? (c.faces.filter (·.families.contains name)) slant weight

/-- The file for a request, if the face for it has one. -/
def find? (c : FontCatalogue) (family : String) (slant : Slant) (weight : Weight) :
    Option FontFileRef := do
  let face ← c.choose? family slant weight
  return ⟨← face.path, face.index⟩

end FontCatalogue

end Lettering
