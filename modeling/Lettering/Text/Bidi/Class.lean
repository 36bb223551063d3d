import Lettering.Text.RangeTable
import Lettering.Text.Bidi.ClassData

/-!
# Bidirectional classes

The classes of the Unicode Bidirectional Algorithm (UAX #9), under the names that the algorithm
gives them.
-/

namespace Lettering.Bidi

/-- The bidirectional class of a character. -/
inductive BidiClass
  | L | R | AL
  | EN | ES | ET | AN | CS | NSM | BN
  | B | S | WS | ON
  | LRE | LRO | RLE | RLO | PDF
  | LRI | RLI | FSI | PDI
  deriving DecidableEq, Repr, Inhabited

namespace BidiClass

/-- Characters that open an isolate. -/
def opensIsolate : BidiClass → Bool
  | LRI | RLI | FSI => true
  | _ => false

/-- Characters that open or close an isolate. -/
def isIsolateControl : BidiClass → Bool
  | LRI | RLI | FSI | PDI => true
  | _ => false

/-- Characters that rule X9 takes out of the text. -/
def isRemoved : BidiClass → Bool
  | BN | LRE | LRO | RLE | RLO | PDF => true
  | _ => false

/-- Neutrals and isolate controls, which rules N1 and N2 resolve. -/
def isNeutral : BidiClass → Bool
  | B | S | WS | ON | LRI | RLI | FSI | PDI => true
  | _ => false

/-- Strong types, with numbers counted as right-to-left ones. -/
def strong? : BidiClass → Option BidiClass
  | L => some L
  | R | EN | AN => some R
  | _ => none

end BidiClass

open BidiClass

/-- All class ranges in one table. -/
def classTable : RangeTable BidiClass :=
  .ofGroups [
    (AL, ClassData.arabicLetter), (AN, ClassData.arabicNumber),
    (B, ClassData.paragraphSeparator), (BN, ClassData.boundaryNeutral),
    (CS, ClassData.commonSeparator), (EN, ClassData.europeanNumber),
    (ES, ClassData.europeanSeparator), (ET, ClassData.europeanTerminator),
    (NSM, ClassData.nonspacingMark), (ON, ClassData.otherNeutral),
    (R, ClassData.rightToLeft), (S, ClassData.segmentSeparator), (WS, ClassData.whiteSpace),
    (LRE, [(0x202A, 0x202A)]), (RLE, [(0x202B, 0x202B)]), (PDF, [(0x202C, 0x202C)]),
    (LRO, [(0x202D, 0x202D)]), (RLO, [(0x202E, 0x202E)]), (LRI, [(0x2066, 0x2066)]),
    (RLI, [(0x2067, 0x2067)]), (FSI, [(0x2068, 0x2068)]), (PDI, [(0x2069, 0x2069)])]

/-- The class of a character. -/
def classOf (c : Char) : BidiClass :=
  (classTable.find? c.toNat).getD L

/-- An embedding level: even levels run from left to right, odd ones from right to left. -/
abbrev Level := Nat

namespace Level

/-- Whether text of a level runs from right to left. -/
def isRightToLeft (n : Level) : Bool := n % 2 == 1

/-- The strong class of a level. -/
def direction (n : Level) : BidiClass := if n.isRightToLeft then R else L

end Level

end Lettering.Bidi
