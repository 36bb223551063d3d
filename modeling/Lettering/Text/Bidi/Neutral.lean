import Lettering.Text.Bidi.Brackets
import Lettering.Text.Bidi.Sequence

/-!
# Brackets and neutral types

Rules N0 to N2 of UAX #9 on one isolating run sequence. Positions count the cells of the
sequence.
-/

namespace Lettering.Bidi

open BidiClass

/-- An opening bracket that waits for its partner. -/
structure OpenBracket where
  pair : Nat
  position : Nat

/-- How many brackets can wait at once. -/
def bracketLimit : Nat := 63

/-- Find the bracket pairs of one run, given the brackets that wait. A bracket that finds no room
ends the search in this run. The answer is the pairs closed here and the brackets that wait at
the end. -/
def pairBrackets (waiting : List OpenBracket) :
    List (Nat × Char × BidiClass) → List (Nat × Nat) × List OpenBracket
  | [] => ([], waiting)
  | (i, c, cls) :: rest =>
    if cls != ON then pairBrackets waiting rest
    else
      match Brackets.opens? c with
      | some pair =>
        if bracketLimit ≤ waiting.length then ([], waiting)
        else pairBrackets (⟨pair, i⟩ :: waiting) rest
      | none =>
        match Brackets.closes? c with
        | some pair =>
          match waiting.dropWhile (·.pair != pair) with
          | partner :: older =>
            let (pairs, waiting) := pairBrackets older rest
            ((partner.position, i) :: pairs, waiting)
          | [] => pairBrackets waiting rest
        | none => pairBrackets waiting rest

/-- The bracket pairs of all runs. -/
def pairBracketsInRuns (waiting : List OpenBracket) :
    List (List (Nat × Char × BidiClass)) → List (Nat × Nat)
  | [] => []
  | run :: rest =>
    let (pairs, waiting) := pairBrackets waiting run
    pairs ++ pairBracketsInRuns waiting rest

/-- The classes of the positions from `first` up to before `stop`. -/
def classesBetween (classes : Array BidiClass) (first stop : Nat) : List BidiClass :=
  (classes.extract first stop).toList

/-- The classes that give the context of a bracket at `position`: back to the start of its run, and
then the earlier runs from the latest to the first, each of them from its start. `starts` are
the first positions of the runs. -/
def contextOf (classes : Array BidiClass) (starts : List Nat) (position : Nat) : List BidiClass :=
  match (starts.filter (· ≤ position)).reverse with
  | [] => []
  | own :: earlier =>
    let stops := own :: earlier
    (classesBetween classes own position).reverse ++
      (earlier.zip stops).flatMap fun (first, stop) => classesBetween classes first stop

/-- Set a bracket and the marks right after it to a class. -/
def setBracket (given : List BidiClass) (cls : BidiClass) (classes : Array BidiClass)
    (position : Nat) : Array BidiClass :=
  let marks := ((given.drop (position + 1)).takeWhile (· == NSM)).length
  (List.range (marks + 1)).foldl (fun a k => a.setIfInBounds (position + k) cls) classes

/-- N0 for one pair: brackets around text of the embedding direction take it; around text of only
the other direction they take the direction of what stands before them. -/
def settlePair (embedding start : BidiClass) (starts : List Nat) (given : List BidiClass)
    (classes : Array BidiClass) (pair : Nat × Nat) : Array BidiClass :=
  let inside := (classesBetween classes (pair.1 + 1) pair.2).filterMap strong?
  let set (cls : BidiClass) : Array BidiClass :=
    setBracket given cls (setBracket given cls classes pair.1) pair.2
  if inside.contains embedding then set embedding
  else if inside.isEmpty then classes
  else set (((contextOf classes starts pair.1).filterMap strong?).headD start)

/-- N0: resolve the brackets of a sequence, in the order in which they open. -/
def resolveBrackets (embedding start : BidiClass) (runs : List (List Cell))
    (classes : List BidiClass) : List BidiClass :=
  let cells := runs.flatten
  let starts := runs.foldl (fun (acc : List Nat × Nat) run =>
    (acc.1 ++ [acc.2], acc.2 + run.length)) ([], 0)
  let marked := (cells.zip classes).zipIdx.map fun ((c, cls), i) => (i, c.char, cls)
  let byRun := starts.1.zip runs |>.map fun (first, run) => (marked.drop first).take run.length
  let pairs := (pairBracketsInRuns [] byRun).mergeSort fun a b => a.1 ≤ b.1
  (pairs.foldl (settlePair embedding start starts.1 (cells.map (·.given))) classes.toArray).toList

/-- N1 and N2: neutrals between two strong types of one direction take it, numbers counting as
right-to-left; others take the embedding direction. -/
def resolveNeutrals (embedding stop : BidiClass) (before : BidiClass) :
    List BidiClass → List BidiClass
  | [] => []
  | c :: rest =>
    if c.isNeutral then
      let behind := ((rest.dropWhile (·.isNeutral)).head?).getD stop
      let settled :=
        match before.strong?, behind.strong? with
        | some L, some L => L
        | some R, some R => R
        | _, _ => embedding
      settled :: resolveNeutrals embedding stop before rest
    else c :: resolveNeutrals embedding stop c rest

end Lettering.Bidi
