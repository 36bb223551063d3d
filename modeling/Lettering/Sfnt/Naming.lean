import Lettering.Font.Catalogue
import Lettering.Sfnt.Container

/-!
# What a font says about itself

The family names, slant, weight and width of the faces in a font file, as a catalogue lists them
(`catalogueFaces`). A face that does not name its family is left out.
-/

namespace Lettering.Sfnt

/-- Decode 16-bit units; none if a surrogate stands alone. -/
def decodeUnits : List Nat → Option (List Char)
  | [] => some []
  | a :: rest =>
    if a < 0xD800 ∨ 0xE000 ≤ a then (Char.ofNat a :: ·) <$> decodeUnits rest
    else
      match rest with
      | b :: rest =>
        if a < 0xDC00 ∧ 0xDC00 ≤ b ∧ b < 0xE000 then
          (Char.ofNat (0x10000 + (a - 0xD800) * 0x400 + (b - 0xDC00)) :: ·) <$> decodeUnits rest
        else none
      | [] => none

/-- A name of a font. -/
structure FontName where
  platform : Nat
  encoding : Nat
  kind : Nat
  bytes : ByteArray

namespace FontName

/-- Whether the name is written in 16-bit units. -/
def isUnicode (n : FontName) : Bool :=
  n.platform == 0 || (n.platform == 3 && n.encoding ≤ 1)

/-- The text of a name. -/
def text? (n : FontName) : Option String :=
  if n.isUnicode then do
    let units ← u16s? n.bytes 0 (n.bytes.size / 2)
    String.ofList <$> decodeUnits units
  else none

/-- The names of a table up to the first that lies outside of it. -/
def readAll (records storage : ByteArray) : Nat → Nat → List FontName
  | _, 0 => []
  | i, count + 1 =>
    let name : Option FontName := do
      let bytes ← slice? storage (← u16? records (i + 10)) (← u16? records (i + 8))
      return ⟨← u16? records i, ← u16? records (i + 2), ← u16? records (i + 6), bytes⟩
    match name with
    | some name => name :: readAll records storage (i + 12) count
    | none => []

/-- The names in a name table of the first version. -/
def ofTable? (b : ByteArray) : Option (List FontName) := do
  guard ((← u16? b 0) = 0)
  let count ← u16? b 2
  let records ← slice? b 6 (12 * count)
  let storage ← dropBytes? b (max (← u16? b 4) (6 + 12 * count))
  return readAll records storage 0 count

/-- The kind of name that gives the family. -/
def familyKind : Nat := 1

/-- The kind of name that gives the family as typographers group faces. It goes before the other. -/
def typographicFamilyKind : Nat := 16

/-- The kind of name that printers use, without which a face is not listed. -/
def printerKind : Nat := 6

/-- The texts of one kind of name. -/
def texts (names : List FontName) (kind : Nat) : List String :=
  (names.filter (·.kind == kind)).filterMap text?

/-- The families that some names give. -/
def families (names : List FontName) : List String :=
  let typographic := texts names typographicFamilyKind
  if typographic.isEmpty then texts names familyKind else typographic

end FontName

/-- The size of the metrics table in each of its versions. -/
def metricsTableSize? : Nat → Option Nat
  | 0 => some 78
  | 1 => some 86
  | 2 | 3 | 4 => some 96
  | 5 => some 100
  | _ => none

/-- The slant that selection flags give; the oblique flag came with the fourth version. -/
def slantOfFlags (version flags : Nat) : Slant :=
  if flags % 2 = 1 then .italic
  else if 4 ≤ version ∧ flags / 512 % 2 = 1 then .oblique
  else .normal

/-- Slant, weight and width in a metrics table. -/
def classOfMetrics? (os2 : ByteArray) : Option (Slant × Nat × Nat) := do
  let version ← u16? os2 0
  guard ((← metricsTableSize? version) ≤ os2.size)
  let width ← u16? os2 6
  let width := if 1 ≤ width ∧ width ≤ 9 then width else CatalogueFace.normalWidth
  return (slantOfFlags version (← u16? os2 62), ← u16? os2 4, width)

/-- What a catalogue lists about a face. -/
def catalogueFace? (path : String) (bytes : ByteArray) (index : Nat) : Option CatalogueFace := do
  let font ← (Container.ofBytes bytes index).toOption
  let names ← FontName.ofTable? (← font.table? "name")
  let families := FontName.families names
  guard (!families.isEmpty && !(FontName.texts names FontName.printerKind).isEmpty)
  let (slant, weight, width) := ((font.table? "OS/2") >>= classOfMetrics?).getD (.normal, 400, 5)
  return { families, slant, weight, width, path := some path, index }

/-- What a catalogue lists about the faces in a file. -/
def catalogueFaces (path : String) (bytes : ByteArray) : List CatalogueFace :=
  let count := ((Container.collection? bytes).map List.length).getD 1
  (List.range count).filterMap (catalogueFace? path bytes)

end Lettering.Sfnt
