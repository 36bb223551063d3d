import Lettering.Text.Bidi.Neutral
import Lettering.Text.Bidi.Paragraph
import Lettering.Text.Bidi.Weak

/-!
# Resolved levels

The levels of the characters of a paragraph: the explicit rules, the weak and neutral rules on
every isolating run sequence, and rules I1 and I2. Characters that rule X9 takes out get the level
of the character before them.
-/

namespace Lettering.Bidi

open BidiClass

/-- I1 and I2: the level of a class inside an embedding. -/
def implicitLevel (level : Level) (cls : BidiClass) : Level :=
  if level.isRightToLeft then
    match cls with
    | L | EN | AN => level + 1
    | _ => level
  else
    match cls with
    | R => level + 1
    | EN | AN => level + 2
    | _ => level

namespace RunSequence

/-- The resolved classes of a sequence. -/
def resolve (s : RunSequence) : List BidiClass :=
  let embedding := ((s.cells.head?).map fun c => Level.direction c.level).getD L
  let weak := resolveWeak s.start (s.cells.map (·.cls))
  resolveNeutrals embedding s.stop s.start (resolveBrackets embedding s.start s.runs weak)

end RunSequence

/-- The characters that take part in the resolution. -/
def cellsOf (chars : List Char) (classes : List BidiClass) (explicit : List (Level × BidiClass)) :
    List Cell :=
  let kept := (chars.zip (classes.zip explicit)).filter fun (_, c, _) => !c.isRemoved
  kept.zipIdx.map fun ((char, given, level, cls), place) =>
    { place, char, given, cls, level }

/-- The resolved levels of the characters that take part, by place. -/
def cellLevels (base : Level) (cells : List Cell) : Array Level :=
  (runSequences base cells).foldl
    (fun levels s =>
      (s.cells.zip s.resolve).foldl
        (fun levels (c, cls) => levels.setIfInBounds c.place (implicitLevel c.level cls)) levels)
    (cells.map (·.level)).toArray

/-- Give out the levels of the characters that take part to a paragraph, and to each other
character the level of the one before it, which is `before` for the first. -/
def spread (before : Level) : List BidiClass → List Level → List Level
  | [], _ => []
  | c :: rest, levels =>
    if c.isRemoved then before :: spread before rest levels
    else
      match levels with
      | level :: levels => level :: spread level rest levels
      | [] => before :: spread before rest []

/-- The classes of a paragraph, isolates settled. -/
def paragraphClasses (chars : List Char) : List BidiClass :=
  settleIsolates (chars.map classOf)

/-- The resolved levels of a paragraph. -/
def resolvedLevels (base : Level) (chars : List Char) : List Level :=
  let classes := paragraphClasses chars
  let cells := cellsOf chars classes (explicitLevels base (.start base) classes)
  spread base classes (cellLevels base cells).toList

end Lettering.Bidi
