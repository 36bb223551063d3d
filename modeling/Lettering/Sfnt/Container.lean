import Lettering.Sfnt.Bytes

/-!
# Font containers

A font file is a directory of tables, or a collection of such directories. `Container.ofBytes`
finds the directory of one face; `Container.table?` gives out a table.
-/

namespace Lettering.Sfnt

/-- Why bytes are not a font. -/
inductive ContainerError
  /-- A field or table record lies beyond the end of the bytes. -/
  | outOfBounds
  /-- The tag at the start names no known kind of font. -/
  | unknownVersion (tag : Nat)
  /-- There is no face of this index. -/
  | unknownIndex (index : Nat)
  deriving DecidableEq, Repr

/-- A number as eight upper-case hexadecimal digits. -/
def hexWord (n : Nat) : String :=
  let digit (shift : Nat) : Char := (Nat.digitChar ((n >>> shift) % 16)).toUpper
  String.ofList ([28, 24, 20, 16, 12, 8, 4, 0].map digit)

namespace ContainerError

/-- The wording of a failure. -/
def message : ContainerError → String
  | outOfBounds => "An offset was out of bounds"
  | unknownVersion tag => "Invalid sfnt version 0x" ++ hexWord tag
  | unknownIndex index => "Invalid index " ++ toString index ++ " for font collection"

end ContainerError

/-- An entry of a table directory. -/
structure TableRecord where
  tag : Nat
  offset : Nat
  length : Nat

/-- The bytes of a file and the tables of one of its faces. -/
structure Container where
  bytes : ByteArray
  records : List TableRecord

/-- A tag of four letters as a number. -/
def tagOf (letters : String) : Nat :=
  letters.toList.foldl (fun n c => n * 0x100 + c.toNat) 0

namespace Container

/-- The tags that open a single font. -/
def versions : List Nat := [0x00010000, tagOf "OTTO", tagOf "true"]

/-- Read `count` table records from `i` on. -/
def readRecords (b : ByteArray) (i : Nat) : Nat → Option (List TableRecord)
  | 0 => some []
  | n + 1 => do
    let record : TableRecord := ⟨← u32? b i, ← u32? b (i + 8), ← u32? b (i + 12)⟩
    return record :: (← readRecords b (i + 16) n)

/-- Read the table directory at `start`. -/
def ofDirectory (b : ByteArray) (start : Nat) : Except ContainerError Container :=
  let directory : Option (Nat × List TableRecord) := do
    let version ← u32? b start
    let count ← u16? b (start + 4)
    let _rest ← slice? b start 12
    return (version, ← readRecords b (start + 12) count)
  match directory with
  | none => .error .outOfBounds
  | some (version, records) =>
    if versions.contains version then .ok ⟨b, records⟩ else .error (.unknownVersion version)

/-- The directory offsets of a collection; none if the bytes are no collection. -/
def collection? (b : ByteArray) : Option (List Nat) := do
  if (← u32? b 0) = tagOf "ttcf" then
    let major ← u16? b 4
    let count ← u32? b 8
    let trailer := if 2 ≤ major then 12 else 0
    let offsets ← slice? b 12 (4 * count)
    let _trailer ← slice? b (12 + 4 * count) trailer
    (List.range count).mapM fun k => u32? offsets (4 * k)
  else none

/-- The face of the given index in a file. A single font has the index zero only. -/
def ofBytes (b : ByteArray) (index : Nat) : Except ContainerError Container :=
  match collection? b with
  | some offsets =>
    match offsets[index]? with
    | some start => ofDirectory b start
    | none => .error (.unknownIndex index)
  | none => do
    let font ← ofDirectory b 0
    if index = 0 then .ok font else .error (.unknownIndex index)

/-- The bytes of a table. -/
def table? (c : Container) (tag : String) : Option ByteArray := do
  let record ← c.records.find? (·.tag == tagOf tag)
  if record.offset = 0 then none else slice? c.bytes record.offset record.length

end Container

end Lettering.Sfnt
