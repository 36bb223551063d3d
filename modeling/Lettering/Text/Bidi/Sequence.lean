import Lettering.Text.Bidi.Explicit

/-!
# Isolating run sequences

Rules X9 and X10 of UAX #9. Characters that X9 takes out of the text are left aside, the others
are cut into runs of one level, and the runs on both sides of an isolate are joined into one
sequence. The remaining rules work on one sequence at a time.
-/

namespace Lettering.Bidi

open BidiClass

/-- A character that takes part in the resolution. -/
structure Cell where
  /-- Its place among the characters that take part. -/
  place : Nat
  char : Char
  /-- Its class in the character database, isolates settled. -/
  given : BidiClass
  /-- Its class after the explicit rules. -/
  cls : BidiClass
  level : Level
  deriving Inhabited

/-- Cut cells into maximal runs of one level. -/
def levelRuns : List Cell → List (List Cell)
  | [] => []
  | c :: rest =>
    match levelRuns rest with
    | (d :: run) :: runs =>
      if c.level = d.level then (c :: d :: run) :: runs else [c] :: (d :: run) :: runs
    | runs => [c] :: runs

/-- Join runs into sequences. A run that ends with the opening of an isolate waits for the run
that begins with its close; `waiting` holds the sequences that wait, innermost first. -/
def joinRuns (waiting : List (List (List Cell))) : List (List Cell) → List (List (List Cell))
  | [] => waiting
  | run :: rest =>
    let (before, waiting) :=
      match waiting with
      | w :: ws => if run.head?.map (·.given) = some PDI then (w, ws) else ([], w :: ws)
      | [] => ([], [])
    let sequence := before ++ [run]
    match run.getLast? with
    | some last =>
      if last.given.opensIsolate then joinRuns (sequence :: waiting) rest
      else sequence :: joinRuns waiting rest
    | none => sequence :: joinRuns waiting rest

/-- A sequence of runs with the strong classes assumed before and behind it. -/
structure RunSequence where
  runs : List (List Cell)
  /-- The class before the sequence. -/
  start : BidiClass
  /-- The class behind the sequence. -/
  stop : BidiClass

namespace RunSequence

/-- The cells of a sequence in order. -/
def cells (s : RunSequence) : List Cell := s.runs.flatten

/-- Complete a sequence: on each side it meets the higher of its own level and the level beyond.
Beyond an isolate that is never closed, and beyond the text, lies the paragraph. -/
def ofRuns (base : Level) (levels : Array Level) (runs : List (List Cell)) : RunSequence :=
  match runs.flatten.head?, runs.flatten.getLast? with
  | some first, some last =>
    let before := if first.place = 0 then base else levels.getD (first.place - 1) base
    let behind :=
      if last.given.opensIsolate then base else levels.getD (last.place + 1) base
    { runs
      start := Level.direction (max first.level before)
      stop := Level.direction (max last.level behind) }
  | _, _ => { runs, start := L, stop := L }

end RunSequence

/-- The isolating run sequences of the cells of a paragraph. -/
def runSequences (base : Level) (cells : List Cell) : List RunSequence :=
  let levels := (cells.map (·.level)).toArray
  (joinRuns [] (levelRuns cells)).map (RunSequence.ofRuns base levels)

end Lettering.Bidi
