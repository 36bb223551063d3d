import Lettering.Decimal.Shortest

/-!
# Writing doubles

A `NumberStyle` says how a finite double is written: which magnitudes are written without an
exponent, whether whole numbers keep a point, and what happens in a tie. `NumberStyle.write` writes
the shortest decimal in a style.
-/

namespace Lettering.Decimal

/-- How doubles are written. -/
structure NumberStyle where
  /-- Whether numbers whose first digit has this exponent are written without an exponent. -/
  positional : Int → Bool
  /-- Whether a whole number ends in `.0` when it is written without an exponent. -/
  keepsPoint : Bool
  /-- Whether an exponent that is not negative has a sign. -/
  signsExponent : Bool := false
  tie : Tie

namespace NumberStyle

/-- Place the point in digits whose first has the exponent `first`. -/
def place (digits : List Char) (first : Int) (keepsPoint : Bool) : List Char :=
  if first < 0 then ['0', '.'] ++ List.replicate (-first - 1).toNat '0' ++ digits
  else
    let whole := first.toNat + 1
    let front := digits.take whole ++ List.replicate (whole - digits.length) '0'
    match digits.drop whole, keepsPoint with
    | [], false => front
    | [], true => front ++ ['.', '0']
    | rest, _ => front ++ '.' :: rest

/-- Digits with an exponent. -/
def scientific (digits : List Char) (first : Int) (signsExponent : Bool) : List Char :=
  let mantissa := match digits with
    | d :: e :: rest => d :: '.' :: e :: rest
    | short => short
  let sign := if signsExponent && 0 ≤ first then ['+'] else []
  mantissa ++ 'e' :: sign ++ (toString first).toList

/-- Write a decimal. -/
def layOut (s : NumberStyle) (d : Numeral) : List Char :=
  let digits := Nat.toDigits 10 d.digits
  let first := d.exponent + digits.length - 1
  if d.digits = 0 || s.positional first then place digits first s.keepsPoint
  else scientific digits first s.signsExponent

/-- Write the magnitude of a finite double. -/
def writeMagnitude (s : NumberStyle) (bits : UInt64) : List Char :=
  let x := Binary.ofBits bits
  s.layOut (if x.m = 0 then ⟨0, 0⟩ else x.shortest s.tie)

/-- Write a double; the sign is kept for zero too. -/
def write (s : NumberStyle) (x : Float) : String :=
  if x.isNaN then "NaN"
  else
    let sign := if x.toBits >>> 63 = 1 then ['-'] else []
    String.ofList (sign ++ if x.isInf then ['i', 'n', 'f'] else s.writeMagnitude x.toBits)

end NumberStyle

/-- Numbers in a listing of values: from a ten-thousandth up to ten to the sixteenth without an
exponent. -/
def listingStyle : NumberStyle where
  positional e := -4 ≤ e && e < 16
  keepsPoint := true
  tie := .up

/-- Numbers in a report: from a hundred-thousandth up to ten to the sixteenth without an
exponent. -/
def reportStyle : NumberStyle where
  positional e := -5 ≤ e && e < 16
  keepsPoint := true
  signsExponent := true
  tie := .toEven

/-- Numbers in a drawing: never with an exponent. -/
def drawingStyle : NumberStyle where
  positional _ := true
  keepsPoint := false
  tie := .up

end Lettering.Decimal
