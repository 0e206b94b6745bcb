/-! # Binary numbers of double width

A finite number is a significand of at most 53 bits times a power of two. A decimal number stands
for the nearest of them, and for infinity when it lies too far out. Rounding works on quotients
of whole numbers, so no step of it is inexact.
-/

namespace CommandGrammar.Decimal

/-- A binary floating-point number. -/
inductive Binary64 where
  /-- The significand times two to the exponent, or the negative of that. -/
  | finite (negative : Bool) (significand : Nat) (exponent : Int)
  | infinite (negative : Bool)
  | notANumber
deriving DecidableEq, Repr

/-- A quotient rounded to the nearest whole number, a half to the even neighbour. -/
def roundDiv (numerator denominator : Nat) : Nat :=
  let quotient := numerator / denominator
  let remainder := numerator % denominator
  if 2 * remainder < denominator ∨ (2 * remainder = denominator ∧ quotient % 2 = 0) then quotient
  else quotient + 1

/-- A fraction times a power of a base, as numerator and denominator. -/
def scale (base : Nat) (exponent : Int) (numerator denominator : Nat) : Nat × Nat :=
  if 0 ≤ exponent then (numerator * base.pow exponent.toNat, denominator)
  else (numerator, denominator * base.pow (-exponent).toNat)

namespace Binary64

/-- The number of bits of a significand. -/
def precision : Nat := 53

/-- The exponent of the finest grid. -/
def leastExponent : Int := -1074

/-- The exponent of the coarsest grid. -/
def greatestExponent : Int := 971

/-- The exponent of the grid for a positive fraction: the one on which its significand has all
its bits, unless that is finer than the finest. -/
def gridExponent (numerator denominator : Nat) : Int :=
  let guess : Int := (numerator.log2 : Int) - (denominator.log2 : Int) - 52
  let (scaled, unit) := scale 2 (-guess) numerator denominator
  max (if scaled < Nat.pow 2 52 * unit then guess - 1 else guess) leastExponent

/-- The binary number nearest to a positive fraction. -/
def ofFraction (negative : Bool) (numerator denominator : Nat) : Binary64 :=
  let exponent := gridExponent numerator denominator
  let (scaled, unit) := scale 2 (-exponent) numerator denominator
  let rounded := roundDiv scaled unit
  let (significand, exponent) :=
    if rounded = Nat.pow 2 precision then (Nat.pow 2 52, exponent + 1) else (rounded, exponent)
  if greatestExponent < exponent then .infinite negative
  else .finite negative significand exponent

/-- The binary number nearest to `digits * 10 ^ exponent`. Numbers whose magnitude is far outside
the range are decided by it alone. -/
def ofDecimal (negative : Bool) (digits : Nat) (exponent : Int) : Binary64 :=
  let magnitude : Int := ((toString digits).length : Int) + exponent
  if digits = 0 ∨ magnitude < -400 then .finite negative 0 leastExponent
  else if 400 < magnitude then .infinite negative
  else
    let (numerator, denominator) := scale 10 exponent digits 1
    ofFraction negative numerator denominator

end Binary64

end CommandGrammar.Decimal
