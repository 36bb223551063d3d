/-!
# Blanks and letter case

The white space of Unicode, and the part of lower-casing that names written in ASCII can notice.
-/

namespace Lettering

/-- The characters with the property White_Space. -/
def isBlankChar (c : Char) : Bool :=
  let n := c.toNat
  (9 ≤ n && n ≤ 13) || n == 0x20 || n == 0x85 || n == 0xA0 || n == 0x1680 ||
    (0x2000 ≤ n && n ≤ 0x200A) || n == 0x2028 || n == 0x2029 || n == 0x202F || n == 0x205F ||
    n == 0x3000

/-- A text without the blanks at both ends. -/
def trimBlanks (text : String) : String :=
  String.ofList ((text.toList.dropWhile isBlankChar).reverse.dropWhile isBlankChar).reverse

/-- The lower case of a character if that is in ASCII, and the character itself otherwise. Of the
characters outside ASCII only the Kelvin sign has such a lower case. -/
def lowerChar (c : Char) : Char := if c = '\u212a' then 'k' else c.toLower

/-- A text in lower case, as far as ASCII goes. -/
def lowerText (text : String) : String := String.ofList (text.toList.map lowerChar)

/-- Whether two texts differ in the case of ASCII letters at most. -/
def sameIgnoringCase (a b : String) : Bool := a.toLower == b.toLower

end Lettering
