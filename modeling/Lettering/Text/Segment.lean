import Lettering.Error
import Lettering.Text.Bidi.Visual
import Lettering.Text.Lines
import Lettering.Text.Listing
import Lettering.Text.Script.Lookup

/-!
# From text to lines of spans

A `Segmenter` cuts text into lines, puts each line into display order and cuts it into spans of
one script. Reordering and script detection are capabilities: without a reorderer lines stay in
logical order, and without a detector a line is one untagged span.

* `Segmenter.segment?` fails when the reorderer does, with the error of the first such line;
* `Segmenter.segment` gives no lines in that case.
-/

namespace Lettering

/-- Characters that follow one another and share a script, if scripts are known. -/
structure Span where
  chars : List Char
  script : Option ScriptTag := none
  deriving DecidableEq, Repr, Inhabited

namespace Span

/-- The text of a span. -/
def text (s : Span) : String := String.ofList s.chars

end Span

/-- A line: spans in display order. -/
structure Line where
  spans : List Span := []
  deriving DecidableEq, Repr, Inhabited

namespace Line

/-- The characters of a line. -/
def chars (l : Line) : List Char := l.spans.flatMap (·.chars)

/-- The text of a line. -/
def text (l : Line) : String := String.ofList l.chars

/-- Whether a line has no characters. -/
def isEmpty (l : Line) : Bool := l.spans.all (·.chars.isEmpty)

end Line

/-- Puts a line into display order. -/
structure Reorderer where
  name : String
  reorder : List Char → Direction → Except Error (List Char)

namespace Reorderer

/-- The Unicode Bidirectional Algorithm. `Bidi.displayOrder` stands for the library that is asked to
reorder a line: it is assumed to compute just that, levels for each paragraph and then rules L1 and
L2 of UAX #9 without mirroring. -/
def unicode : Reorderer where
  name := "unicode-bidi"
  reorder := fun line direction => .ok (Bidi.displayOrder direction line)

end Reorderer

/-- Whether a character of script `next` goes into a span that began with script `current`. -/
def joinsSpan (current next : ScriptTag) : Bool :=
  next == .inherited || next == current

/-- Cut characters into spans of one script; marks go with what they follow. -/
def splitSpans (script : Char → ScriptTag) : List Char → List Span
  | [] => []
  | c :: rest =>
    let joins := fun d => joinsSpan (script c) (script d)
    ⟨c :: rest.takeWhile joins, some (script c)⟩ :: splitSpans script (rest.dropWhile joins)
termination_by line => line.length
decreasing_by
  exact Nat.lt_succ_of_le (List.dropWhile_suffix _).length_le

/-- Cuts text into lines of spans. -/
structure Segmenter where
  reorderer : Option Reorderer := some .unicode
  scripts : Option (Char → ScriptTag) := some scriptOf

namespace Segmenter

/-- No reordering and no scripts. -/
def plain : Segmenter := { reorderer := none, scripts := none }

/-- A line in display order. An empty line needs no reordering. -/
def order (s : Segmenter) (direction : Direction) (line : List Char) :
    Except Error (List Char) :=
  match s.reorderer, line with
  | _, [] => .ok []
  | none, line => .ok line
  | some r, line => r.reorder line direction

/-- The spans of a line in display order. -/
def spans (s : Segmenter) (line : List Char) : List Span :=
  match s.scripts, line with
  | _, [] => []
  | none, line => [⟨line, none⟩]
  | some script, line => splitSpans script line

/-- The lines of a text. -/
def segment? (s : Segmenter) (text : String) (direction : Direction) :
    Except Error (List Line) :=
  (splitLines (normalizeText text.toList)).mapM fun line => do
    return ⟨s.spans (← s.order direction line)⟩

/-- The lines of a text, none if it cannot be put into display order. -/
def segment (s : Segmenter) (text : String) (direction : Direction) : List Line :=
  match s.segment? text direction with
  | .ok lines => lines
  | .error _ => []

/-- How a segmenter appears in a listing of values. -/
def inspect (s : Segmenter) : String :=
  let bidi := Listing.option (s.reorderer.map fun r => "\"" ++ r.name ++ "\"")
  Listing.record "TextSegmenter" [("bidi", bidi), ("scripts", toString s.scripts.isSome)]

end Segmenter

end Lettering
