import Lettering.Text.Bidi.Class

/-!
# Weak types

Rules W1 to W7 of UAX #9, each as a pass over the classes of one isolating run sequence.
-/

namespace Lettering.Bidi

open BidiClass

/-- W1: a mark takes the class of the character before it, and is neutral after the control of an
isolate. -/
def marksFollow (before : BidiClass) : List BidiClass → List BidiClass
  | [] => []
  | c :: rest =>
    let c := if c = NSM then (if before.isIsolateControl then ON else before) else c
    c :: marksFollow c rest

/-- W2: digits after an Arabic letter are Arabic digits. -/
def digitsAfterArabic (strong : BidiClass) : List BidiClass → List BidiClass
  | [] => []
  | c :: rest =>
    (if c = EN ∧ strong = AL then AN else c) ::
      digitsAfterArabic (if c = L ∨ c = R ∨ c = AL then c else strong) rest

/-- W3: Arabic letters are right-to-left letters. -/
def arabicIsRight (classes : List BidiClass) : List BidiClass :=
  classes.map fun c => if c = AL then R else c

/-- W4: one separator between two numbers of a kind belongs to the number. -/
def separatorsInNumbers (before : BidiClass) : List BidiClass → List BidiClass
  | [] => []
  | c :: rest =>
    let joined :=
      match before, c, rest.head? with
      | EN, ES, some EN => EN
      | EN, CS, some EN => EN
      | AN, CS, some AN => AN
      | _, _, _ => c
    joined :: separatorsInNumbers c rest

/-- W5: terminators next to European digits belong to the number. -/
def terminatorsOfNumbers (before : BidiClass) : List BidiClass → List BidiClass
  | [] => []
  | c :: rest =>
    let c :=
      if c = ET ∧ (before = EN ∨ (rest.dropWhile (· == ET)).head? = some EN) then EN else c
    c :: terminatorsOfNumbers c rest

/-- W6: other separators and terminators are neutral. -/
def separatorsAreNeutral (classes : List BidiClass) : List BidiClass :=
  classes.map fun c => if c = ES ∨ c = ET ∨ c = CS then ON else c

/-- W7: digits after a left-to-right letter are left-to-right. -/
def digitsAfterLeft (strong : BidiClass) : List BidiClass → List BidiClass
  | [] => []
  | c :: rest =>
    (if c = EN ∧ strong = L then L else c) ::
      digitsAfterLeft (if c = L ∨ c = R then c else strong) rest

/-- Rules W1 to W7 on the classes of a sequence that has `start` before it. -/
def resolveWeak (start : BidiClass) (classes : List BidiClass) : List BidiClass :=
  digitsAfterLeft start <| separatorsAreNeutral <| terminatorsOfNumbers start <|
    separatorsInNumbers start <| arabicIsRight <| digitsAfterArabic start <|
    marksFollow start classes

end Lettering.Bidi
