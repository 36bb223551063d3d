/-!
# Line breaks and tabs

Text is normalised before it is cut into lines: a carriage return before a line feed goes, and a
tab becomes eight spaces. Then every line break ends a line, so a text with `k` breaks has
`k + 1` lines.
-/

namespace Lettering

/-- The spaces that a tab stands for. -/
def tabWidth : Nat := 8

/-- Line feed, vertical tab, form feed, carriage return, next line, and the line and paragraph
separators. -/
def isLineBreak (c : Char) : Bool :=
  c == '\n' || c == '\x0b' || c == '\x0c' || c == '\r' || c == '\x85' || c == '\u2028' || c == '\u2029'

/-- One line feed for a carriage return with a line feed, and spaces for tabs. -/
def normalizeText : List Char → List Char
  | [] => []
  | c :: rest =>
    if c = '\t' then List.replicate tabWidth ' ' ++ normalizeText rest
    else if c = '\r' ∧ rest.head? = some '\n' then normalizeText rest
    else c :: normalizeText rest

/-- Put a character in front of the first of some pieces. -/
def consFirst (c : Char) : List (List Char) → List (List Char)
  | [] => [[c]]
  | piece :: rest => (c :: piece) :: rest

/-- The pieces of a text between its line breaks. -/
def splitLines : List Char → List (List Char)
  | [] => [[]]
  | c :: rest => if isLineBreak c then [] :: splitLines rest else consFirst c (splitLines rest)

end Lettering
