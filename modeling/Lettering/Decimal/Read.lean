/-!
# Reading doubles

A number is written as digits with a point anywhere among them and an optional exponent, or as one
of the words for infinity and for what is not a number; a sign may come first. The result is the
nearest double.
-/

namespace Lettering.Decimal

/-- The digits at the start of a text, and the rest. -/
def spanDigits (cs : List Char) : List Char × List Char :=
  (cs.takeWhile Char.isDigit, cs.dropWhile Char.isDigit)

/-- The number that digits spell. -/
def digitsValue (digits : List Char) : Nat :=
  digits.foldl (fun n c => n * 10 + (c.toNat - '0'.toNat)) 0

/-- A sign, if there is one, and the rest. The answer begins with whether the sign is negative. -/
def readSign : List Char → Bool × List Char
  | '-' :: rest => (true, rest)
  | '+' :: rest => (false, rest)
  | rest => (false, rest)

/-- The digits before and after a point, and the rest. -/
def readMantissa (cs : List Char) : List Char × List Char × List Char :=
  match spanDigits cs with
  | (whole, '.' :: rest) => let (fraction, rest) := spanDigits rest; (whole, fraction, rest)
  | (whole, rest) => (whole, [], rest)

/-- An exponent at the end of a number: zero if there is nothing left, none for anything else. -/
def readExponent? : List Char → Option Int
  | [] => some 0
  | c :: rest =>
    if c = 'e' ∨ c = 'E' then
      match readSign rest with
      | (negative, digits) =>
        if digits.isEmpty || !digits.all Char.isDigit then none
        else some (if negative then -(digitsValue digits : Int) else digitsValue digits)
    else none

/-- The double nearest to `n * 10 ^ e`. Beyond the range of doubles nothing is computed. -/
def nearestDouble (n : Nat) (e : Int) : Float :=
  let size := (Nat.toDigits 10 n).length + e
  if n = 0 ∨ size < -400 then 0
  else if 400 < size then 1.0 / 0.0
  else Float.ofScientific n (e < 0) e.natAbs

/-- The magnitude of a number. -/
def readMagnitude? (cs : List Char) : Option Float :=
  let word := String.ofList (cs.map Char.toLower)
  if word = "inf" ∨ word = "infinity" then some (1.0 / 0.0)
  else if word = "nan" then some (0.0 / 0.0)
  else
    match readMantissa cs with
    | (whole, fraction, rest) =>
      if whole.isEmpty && fraction.isEmpty then none
      else (readExponent? rest).map fun e =>
        nearestDouble (digitsValue (whole ++ fraction)) (e - fraction.length)

/-- The double that a text spells. -/
def readDouble? (text : String) : Option Float :=
  let (negative, rest) := readSign text.toList
  (readMagnitude? rest).map fun x => if negative then -x else x

/-- The integer that a text spells: digits, with an optional sign. -/
def readInteger? (text : String) : Option Int :=
  let (negative, digits) := readSign text.toList
  if digits.isEmpty || !digits.all Char.isDigit then none
  else some (if negative then -(digitsValue digits : Int) else digitsValue digits)

end Lettering.Decimal
