/-! # Finite binary64 numbers

A number is kept as a sign, a significand and a power of two. The significand
has at most 53 bits, the exponent is never below -1074, and the significand has
all 53 bits unless the exponent is -1074. So each number has one
representation, apart from the two zeros, and equality is structural.

All arithmetic is exact arithmetic on natural numbers followed by one rounding
to nearest, ties to even. -/

namespace SharedEditing.Decimal

structure Binary64 where
  negative : Bool
  significand : Nat
  exponent : Int
  deriving DecidableEq, Repr, Inhabited

namespace Binary64

def leastExponent : Int := -1074

def greatestExponent : Int := 971

def zero (negative : Bool) : Binary64 := ⟨negative, 0, leastExponent⟩

def isZero (number : Binary64) : Bool := number.significand == 0

def scaleByTwo (exponent : Int) (numerator denominator : Nat) : Nat × Nat :=
  if 0 ≤ exponent then
    (numerator * Nat.pow 2 exponent.toNat, denominator)
  else
    (numerator, denominator * Nat.pow 2 (-exponent).toNat)

/-- The natural number nearest to a quotient; a half goes to the even neighbour. -/
def nearestQuotient (numerator denominator : Nat) : Nat :=
  let quotient := numerator / denominator
  let remainder := numerator % denominator
  if 2 * remainder < denominator then quotient
  else if denominator < 2 * remainder then quotient + 1
  else quotient + quotient % 2

/-- The number nearest to a positive quotient, ties to even, or none when that
number would be infinite. A quotient of zero gives the zero of the sign. -/
def nearest? (negative : Bool) (numerator denominator : Nat) : Option Binary64 :=
  if numerator = 0 then
    some (zero negative)
  else
    let estimate : Int := (numerator.log2 : Int) - denominator.log2 - 53
    let coarse := max leastExponent estimate
    let tooFine :=
      let (scaled, divisor) := scaleByTwo (-coarse) numerator denominator
      Nat.pow 2 53 ≤ scaled / divisor
    let exponent := if tooFine then coarse + 1 else coarse
    let (scaled, divisor) := scaleByTwo (-exponent) numerator denominator
    let rounded := nearestQuotient scaled divisor
    let (significand, exponent) :=
      if rounded = Nat.pow 2 53 then (Nat.pow 2 52, exponent + 1) else (rounded, exponent)
    if greatestExponent < exponent then none else some ⟨negative, significand, exponent⟩

def magnitude (number : Binary64) : Nat × Nat :=
  scaleByTwo number.exponent number.significand 1

def withSign (negative : Bool) (number : Binary64) : Binary64 :=
  { number with negative }

def ofNat? (negative : Bool) (value : Nat) : Option Binary64 :=
  nearest? negative value 1

def powerOfTen? (power : Nat) : Option Binary64 :=
  nearest? false (Nat.pow 10 power) 1

def times? (left right : Binary64) : Option Binary64 :=
  let (leftNumerator, leftDenominator) := left.magnitude
  let (rightNumerator, rightDenominator) := right.magnitude
  nearest? left.negative (leftNumerator * rightNumerator) (leftDenominator * rightDenominator)

def over? (left right : Binary64) : Option Binary64 :=
  let (leftNumerator, leftDenominator) := left.magnitude
  let (rightNumerator, rightDenominator) := right.magnitude
  nearest? left.negative (leftNumerator * rightDenominator) (leftDenominator * rightNumerator)

example : nearest? false 1 1 = some ⟨false, 2 ^ 52, -52⟩ := by decide +kernel
example : nearest? true 1 (2 ^ 1074) = some ⟨true, 1, -1074⟩ := by decide +kernel
example : nearest? false (2 ^ 1024) 1 = none := by decide +kernel

end Binary64

end SharedEditing.Decimal
