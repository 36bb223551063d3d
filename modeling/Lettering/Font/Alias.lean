import Lettering.Font.Style
import Lettering.Text.Blank

/-!
# File names of common families

Common families ship under short file names with letters for the variant, such as `arialbd` or
`timesbi`, or under a name that spells the variant out, such as `Arial Bold`. `candidateNames` gives
the names worth trying for a family, without extension and directory; it is empty for a family that
is not in the tables.
-/

namespace Lettering

/-- How the files of a family mark their variants. -/
inductive VariantMark
  /-- One file for all variants. -/
  | unmarked
  /-- `bd` for bold, `i` for slanted, `bi` for both. -/
  | boldSlanted
  /-- `bd` for bold, `it` for slanted, `bi` for both. -/
  | boldItalic
  /-- `r` for regular or `b` for bold, then `i` for slanted. -/
  | regularOrBold
  deriving DecidableEq, Repr

namespace VariantMark

/-- The letters for a variant. -/
def letters : VariantMark → (bold slanted : Bool) → String
  | unmarked, _, _ => ""
  | boldSlanted, false, false | boldItalic, false, false => ""
  | boldSlanted, true, false | boldItalic, true, false => "bd"
  | boldSlanted, true, true | boldItalic, true, true => "bi"
  | boldSlanted, false, true => "i"
  | boldItalic, false, true => "it"
  | regularOrBold, false, false => "r"
  | regularOrBold, true, false => "b"
  | regularOrBold, false, true => "ri"
  | regularOrBold, true, true => "bi"

end VariantMark

/-- What is added to a name that spells its variant out. -/
def variantWords (bold : Bool) (slant : Slant) : String :=
  (if bold then " Bold" else "") ++
    match slant with
    | .normal => ""
    | .oblique => " Oblique"
    | .italic => " Italic"

/-- How the files of a family are named. -/
structure FamilyFiles where
  family : String
  /-- The short name. -/
  stem : String
  /-- The name that variants are spelled out behind. -/
  longStem : String := stem
  mark : VariantMark

/-- The families whose files are known. -/
def familyFiles : List FamilyFiles := [
  { family := "arial black", stem := "ariblk", mark := .unmarked },
  { family := "arial", stem := "arial", longStem := "Arial", mark := .boldSlanted },
  { family := "comic sans", stem := "comic", mark := .boldSlanted },
  { family := "courier new", stem := "cour", longStem := "Courier New", mark := .boldSlanted },
  { family := "times new roman", stem := "times", longStem := "Times New Roman"
    mark := .boldSlanted },
  { family := "trebuchet", stem := "trebuc", longStem := "Trebuchet MS", mark := .boldItalic },
  { family := "luxi sans", stem := "luxis", mark := .regularOrBold },
  { family := "luxi serif", stem := "luxir", mark := .regularOrBold },
  { family := "luxi mono", stem := "luxim", mark := .regularOrBold },
  { family := "luxi", stem := "luxim", mark := .regularOrBold }]

/-- The families that stand for a general name, best first. -/
def generalFamilies : List (String × List String) := [
  ("sans serif", ["arial", "luxi sans", "helvetica"]),
  ("serif", ["times new roman", "luxi serif"]),
  ("comic", ["comic sans"]),
  ("courier", ["courier new"]),
  ("times", ["times new roman"])]

namespace FamilyFiles

/-- The file names of a variant. -/
def names (f : FamilyFiles) (slant : Slant) (weight : Weight) : List String :=
  [f.stem ++ f.mark.letters weight.isBold slant.isSlanted,
    f.longStem ++ variantWords weight.isBold slant]

end FamilyFiles

/-- A list without what it already held further ahead. -/
def withoutRepeats {α : Type} [BEq α] (xs : List α) : List α :=
  xs.foldl (fun seen x => if seen.contains x then seen else seen ++ [x]) []

/-- The file names worth trying for a family, best first. The case of the family does not matter. -/
def candidateNames (family : String) (slant : Slant) (weight : Weight) : List String :=
  let family := lowerText (trimBlanks family)
  let families := (generalFamilies.lookup family).getD [family]
  withoutRepeats <| families.flatMap fun name =>
    (familyFiles.filter (·.family == name)).flatMap (·.names slant weight)

end Lettering
