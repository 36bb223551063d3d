import Lettering.Text.Bidi.Levels

/-!
# Display order

Rules L1 and L2 of UAX #9, with each paragraph taken as one line. `displayOrder` puts the
characters of a text into the order in which they are shown. Brackets keep their shape, and marks
are not moved back behind what they mark.
-/

namespace Lettering.Bidi

open BidiClass

/-- What rule L1 says of one character. -/
inductive LineLevel
  /-- The level of the paragraph. -/
  | base
  /-- The level of the character before it. -/
  | asBefore
  /-- Its own level. -/
  | own (level : Level)

/-- L1, from the end of the line. Separators, and blanks and isolate controls before a separator or
at the end, fall back to the paragraph; the flag says whether a blank in front of what has been
read would. -/
def lineLevels : List (BidiClass × Level) → List LineLevel × Bool
  | [] => ([], true)
  | (c, level) :: rest =>
    let (levels, trailing) := lineLevels rest
    if c = B ∨ c = S then (.base :: levels, true)
    else if c = WS ∨ c.isIsolateControl then
      ((if trailing then .base else .own level) :: levels, trailing)
    else if c.isRemoved then ((if trailing then .base else .asBefore) :: levels, trailing)
    else (.own level :: levels, false)

/-- The levels that L1 describes, where `before` is the level before the first character. -/
def settleLine (base before : Level) : List LineLevel → List Level
  | [] => []
  | .base :: rest => base :: settleLine base base rest
  | .asBefore :: rest => before :: settleLine base before rest
  | .own level :: rest => level :: settleLine base level rest

/-- Reverse every maximal stretch of elements whose level is at least `level`. `held` are the
elements of the stretch being read, last one first. -/
def reverseStretches {α : Type} (level : Level) (held : List (Level × α)) :
    List (Level × α) → List (Level × α)
  | [] => held
  | x :: rest =>
    if level ≤ x.1 then reverseStretches level (x :: held) rest
    else held ++ x :: reverseStretches level [] rest

/-- L2 for the `steps` levels from `lowest` upwards, the highest first. -/
def reverseLevels {α : Type} (lowest : Level) : Nat → List (Level × α) → List (Level × α)
  | 0, xs => xs
  | steps + 1, xs => reverseLevels lowest steps (reverseStretches (lowest + steps) [] xs)

/-- L2: reverse the stretches of each level from the highest down to the lowest odd one. -/
def visualOrder {α : Type} (xs : List (Level × α)) : List (Level × α) :=
  let levels := xs.map (·.1)
  let highest := levels.foldl max 0
  let least := levels.foldl min highest
  let lowest := least / 2 * 2 + 1
  reverseLevels lowest (highest + 1 - lowest) xs

/-- The display order of one paragraph. Without right-to-left characters nothing moves. -/
def displayParagraph (direction : Direction) (chars : List Char) : List Char :=
  let classes := paragraphClasses chars
  let base := baseLevel direction classes
  let levels := resolvedLevels base chars
  if levels.any Level.isRightToLeft then
    let shown := settleLine base base (lineLevels (classes.zip levels)).1
    (visualOrder (shown.zip chars)).map (·.2)
  else chars

/-- The display order of a text, paragraph after paragraph. -/
def displayOrder (direction : Direction) (text : List Char) : List Char :=
  (paragraphs text).flatMap (displayParagraph direction)

end Lettering.Bidi
