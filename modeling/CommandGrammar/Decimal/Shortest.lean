import CommandGrammar.Decimal.Binary64

/-! # Shortest decimal texts

The text of a binary number is the decimal with the fewest digits that reads back as the number.
Among the grids of powers of ten, it is the coarsest with a point in the interval of the reals
that round to the number. Numbers are written without exponents, and always with a point.
-/

namespace CommandGrammar.Decimal

/-- A finite number with the reals that round to it, all measured in quarters of its unit. -/
structure Neighbourhood where
  low : Nat
  value : Nat
  high : Nat
  /-- Whether the ends round to the number too. -/
  closed : Bool
  /-- The exponent of two of a quarter of the unit. -/
  exponent : Int
deriving DecidableEq, Repr

namespace Neighbourhood

/-- The neighbourhood of a positive number. Below a power of two the grid is finer, so the
interval reaches only half as far down. -/
def around (significand : Nat) (exponent : Int) : Neighbourhood where
  low :=
    if significand = Nat.pow 2 52 ∧ Binary64.leastExponent < exponent then 4 * significand - 1
    else 4 * significand - 2
  value := 4 * significand
  high := 4 * significand + 2
  closed := significand % 2 = 0
  exponent := exponent - 2

/-- The point of the grid of a power of ten that reads back as the number. Of two the nearer is
taken, and of two at equal distance the greater. -/
def gridPoint? (around : Neighbourhood) (power : Int) : Option Nat :=
  let (one, unit) := scale 2 around.exponent 1 1
  let (one, step) := scale 10 (-power) one unit
  let low := around.low * one
  let value := around.value * one
  let high := around.high * one
  let inside (point : Nat) : Bool :=
    if around.closed then decide (low ≤ point ∧ point ≤ high)
    else decide (low < point ∧ point < high)
  let below := value / step
  let above := below + 1
  match inside (below * step), inside (above * step) with
  | true, true => if value - below * step < above * step - value then some below else some above
  | true, false => some below
  | false, true => some above
  | false, false => none

/-- The point of the coarsest grid that has one, tried from the given power of ten downwards. -/
def coarsest : Nat → Int → Neighbourhood → Nat × Int
  | 0, power, _ => (0, power)
  | fuel + 1, power, around =>
    match around.gridPoint? power with
    | some point => (point, power)
    | none => coarsest fuel (power - 1) around

end Neighbourhood

/-- The digits and the power of ten of the shortest decimal of a positive number. Every positive
number is below `10 ^ 309`, and the finest grid that is needed is that of `10 ^ -324`. -/
def shortest (significand : Nat) (exponent : Int) : Nat × Int :=
  Neighbourhood.coarsest 634 309 (.around significand exponent)

/-- A decimal with a point and without an exponent. -/
def positional (digits : Nat) (power : Int) : String :=
  let text := (toString digits).toList
  if 0 ≤ power then String.ofList (text ++ List.replicate power.toNat '0' ++ ['.', '0'])
  else
    let places := (-power).toNat
    let padded := List.replicate (places + 1 - text.length) '0' ++ text
    let whole := padded.length - places
    String.ofList (padded.take whole ++ '.' :: padded.drop whole)

/-- The text of a binary number. -/
def Binary64.display : Binary64 → String
  | .finite negative significand exponent =>
    let sign := if negative then "-" else ""
    if significand = 0 then sign ++ "0.0"
    else
      let (digits, power) := shortest significand exponent
      sign ++ positional digits power
  | .infinite negative => if negative then "-inf" else "inf"
  | .notANumber => "NaN"

end CommandGrammar.Decimal
