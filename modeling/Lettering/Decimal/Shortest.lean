/-!
# The shortest decimal of a double

A finite double stands for all real numbers that round to it. `Binary.shortest` gives the decimal
with the fewest digits among them, and of several with that many digits the one nearest to the value
itself. Everything is exact arithmetic on whole numbers: a value and its bounds are counted in
quarters of the last binary place (`Binary.quarters`), and a grid of decimals is tried after
another, from coarse to fine, each by the two grid points around the value.
-/

namespace Lettering.Decimal

/-- A positive number `m * 2 ^ q`. -/
structure Binary where
  m : Nat
  q : Int
  /-- The next smaller double is only half as far away as the next larger one. -/
  narrowBelow : Bool
  deriving Repr, DecidableEq

/-- A number `digits * 10 ^ exponent`. -/
structure Numeral where
  digits : Nat
  exponent : Int
  deriving Repr, DecidableEq

/-- Which of two decimals represents a value halfway between them. -/
inductive Tie
  | toEven
  | up
  deriving Repr, DecidableEq

namespace Binary

/-- The bit that a double of full precision has in front of its fraction. -/
def leadingBit : Nat := 1 <<< 52

/-- The magnitude in the bits of a finite double. -/
def ofBits (bits : UInt64) : Binary :=
  let exponent := (bits >>> 52).toNat % 2048
  let fraction := bits.toNat % leadingBit
  if exponent = 0 then ⟨fraction, -1074, false⟩
  else ⟨leadingBit + fraction, (exponent : Int) - 1075, fraction == 0 && 1 < exponent⟩

/-- The value in quarters of its last place. -/
def quarters (x : Binary) : Nat := 4 * x.m

/-- The lower end of what rounds to the value, in quarters. -/
def low (x : Binary) : Nat := if x.narrowBelow then x.quarters - 1 else x.quarters - 2

/-- The upper end of what rounds to the value, in quarters. -/
def high (x : Binary) : Nat := x.quarters + 2

/-- A rounding interval has its ends exactly if the value is even. -/
def closed (x : Binary) : Bool := x.m % 2 == 0

/-- What a quarter is multiplied by to be compared with points of the grid of `10 ^ g`. -/
def quarterScale (x : Binary) (g : Int) : Nat := Nat.pow 10 (-g).toNat <<< (x.q - 2).toNat

/-- What a point of the grid of `10 ^ g` is multiplied by to be compared with quarters. -/
def gridScale (x : Binary) (g : Int) : Nat := Nat.pow 10 g.toNat <<< (2 - x.q).toNat

/-- Whether a point of the grid of `10 ^ g` rounds to the value. -/
def covers (x : Binary) (g : Int) (point : Nat) : Bool :=
  let at' := point * x.gridScale g
  let low := x.low * x.quarterScale g
  let high := x.high * x.quarterScale g
  if x.closed then low ≤ at' && at' ≤ high else low < at' && at' < high

/-- The point of the grid of `10 ^ g` to write, if one around the value rounds to it. -/
def gridPoint? (x : Binary) (tie : Tie) (g : Int) : Option Nat :=
  let below := x.quarters * x.quarterScale g / x.gridScale g
  match x.covers g below, x.covers g (below + 1) with
  | false, false => none
  | true, false => some below
  | false, true => some (below + 1)
  | true, true =>
    match compare (2 * (x.quarters * x.quarterScale g)) ((2 * below + 1) * x.gridScale g) with
    | .lt => some below
    | .gt => some (below + 1)
    | .eq => some (if tie = .toEven && below % 2 == 0 then below else below + 1)

/-- The value itself as a decimal. -/
def exact (x : Binary) : Numeral :=
  if 0 ≤ x.q then ⟨x.m <<< x.q.toNat, 0⟩ else ⟨x.m * Nat.pow 5 (-x.q).toNat, x.q⟩

/-- Try the grid of `10 ^ g` and the finer ones. -/
def search (x : Binary) (tie : Tie) (g : Int) : Nat → Numeral
  | 0 => x.exact
  | steps + 1 =>
    match x.gridPoint? tie g with
    | some point => ⟨point, g⟩
    | none => x.search tie (g - 1) steps

/-- The exponent of a grid that is coarser than the value, by an estimate of its logarithm. -/
def coarsest (x : Binary) : Int := (Nat.log2 x.m + x.q + 1) * 1233 / 4096 + 1

/-- The shortest decimal that rounds to the value. Seventeen digits are always enough. -/
def shortest (x : Binary) (tie : Tie) : Numeral := x.search tie x.coarsest 20

end Binary

end Lettering.Decimal
