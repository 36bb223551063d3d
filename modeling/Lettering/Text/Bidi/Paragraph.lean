import Lettering.Text.Bidi.Class
import Lettering.Text.Direction

/-!
# Paragraphs and their base level

Rules P1 to P3 of UAX #9: text is cut into paragraphs after every paragraph separator, and the
first strong character outside isolates gives the base level. The same search decides on which
side an isolate of unstated direction runs (rule X5c).
-/

namespace Lettering.Bidi

open BidiClass

/-- Whether a character ends a paragraph. -/
def endsParagraph (c : Char) : Bool := classOf c == B

/-- The paragraphs of a text, each with the separator that ends it. -/
def paragraphs : List Char → List (List Char)
  | [] => []
  | c :: rest =>
    if endsParagraph c then [c] :: paragraphs rest
    else
      match paragraphs rest with
      | [] => [[c]]
      | p :: ps => (c :: p) :: ps

/-- The first strong class outside isolates opened on the way. `depth` counts the open isolates;
at depth zero a closing control ends the search if `inner` holds and is passed over otherwise. -/
def firstStrong (inner : Bool) : Nat → List BidiClass → Option BidiClass
  | _, [] => none
  | depth, c :: rest =>
    if c.opensIsolate then firstStrong inner (depth + 1) rest
    else if c = PDI then
      match depth with
      | 0 => if inner then none else firstStrong inner 0 rest
      | depth + 1 => firstStrong inner depth rest
    else if depth = 0 ∧ (c = L ∨ c = R ∨ c = AL) then some c
    else firstStrong inner depth rest

/-- Replace isolates of unstated direction by the kind their content asks for; those without a
strong character stay and run from left to right. -/
def settleIsolates : List BidiClass → List BidiClass
  | [] => []
  | c :: rest =>
    let settled :=
      if c = FSI then
        match firstStrong true 0 rest with
        | some L => LRI
        | some _ => RLI
        | none => FSI
      else c
    settled :: settleIsolates rest

/-- The base level of a paragraph. -/
def baseLevel (direction : Direction) (classes : List BidiClass) : Level :=
  match direction with
  | .leftToRight => 0
  | .rightToLeft => 1
  | .auto =>
    match firstStrong false 0 classes with
    | some R | some AL => 1
    | _ => 0

end Lettering.Bidi
