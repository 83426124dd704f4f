import SharedEditing.Decimal.Binary64

/-! # Shortest decimal digits

The decimal digits of a binary64 number are the fewest that read back as the
same number, and among those the nearest to it. A decimal reads back as the
number when it lies in the number's rounding interval, whose ends belong to the
interval exactly when the significand is even. For each digit count, only the
two neighbours of the number on the grid of that many digits can be the first
to lie inside. -/

namespace SharedEditing.Decimal

/-- The digits `digits`, read as `d.ddd`, times `10 ^ exponent`. -/
structure Digits where
  digits : List Nat
  exponent : Int
  deriving DecidableEq, Repr

def digitsOf (value : Nat) : List Nat :=
  (Nat.toDigits 10 value).map fun character => character.toNat - '0'.toNat

def decimalExponent (numerator denominator : Nat) : Int :=
  if denominator ≤ numerator then
    (digitsOf (numerator / denominator)).length - 1
  else
    let ceiling := (denominator + numerator - 1) / numerator
    Int.negOfNat (digitsOf (ceiling - 1)).length

namespace Binary64

structure Interval where
  low : Nat
  centre : Nat
  high : Nat
  denominator : Nat
  closed : Bool

/-- The gap below is half as wide as the gap above at a power of two. -/
def interval (number : Binary64) : Interval :=
  let significand := number.significand
  let gapBelow := if significand = Nat.pow 2 52 && leastExponent < number.exponent then 1 else 2
  let (unit, denominator) := scaleByTwo (number.exponent - 2) 1 1
  { low := (4 * significand - gapBelow) * unit
    centre := 4 * significand * unit
    high := (4 * significand + 2) * unit
    denominator
    closed := significand % 2 == 0 }

def Interval.holds (interval : Interval) (multiple : Nat) (power : Int) : Bool :=
  let (value, scale) :=
    if 0 ≤ power then (multiple * Nat.pow 10 power.toNat, 1)
    else (multiple, Nat.pow 10 (-power).toNat)
  let scaled := value * interval.denominator
  let low := interval.low * scale
  let high := interval.high * scale
  if interval.closed then low ≤ scaled && scaled ≤ high else low < scaled && scaled < high

/-- The multiple of `10 ^ power` that lies in the interval and is nearest to the
number, if any does. An exact tie goes to the even multiple. -/
def Interval.onGrid? (interval : Interval) (power : Int) : Option Nat :=
  let (numerator, denominator) :=
    if 0 ≤ power then
      (interval.centre, interval.denominator * Nat.pow 10 power.toNat)
    else
      (interval.centre * Nat.pow 10 (-power).toNat, interval.denominator)
  let below := numerator / denominator
  let above := below + 1
  match interval.holds below power, interval.holds above power with
  | true, true => some (nearestQuotient numerator denominator)
  | true, false => some below
  | false, true => some above
  | false, false => none

def searchGrids (interval : Interval) (exponent : Int) : (grids count : Nat) → Nat × Int
  | 0, count => (interval.centre / interval.denominator, exponent - (count : Int) + 1)
  | grids + 1, count =>
      let power := exponent - (count : Int) + 1
      match interval.onGrid? power with
      | some multiple => (multiple, power)
      | none => searchGrids interval exponent grids (count + 1)

/-- The digits of a positive number. Seventeen digits always suffice. -/
def shortestDigits (number : Binary64) : Digits :=
  let interval := number.interval
  let exponent := decimalExponent interval.centre interval.denominator
  let (multiple, power) := searchGrids interval exponent 17 1
  let written := digitsOf multiple
  let kept := (written.reverse.dropWhile (· == 0)).reverse
  { digits := if kept.isEmpty then [0] else kept
    exponent := power + written.length - 1 }

end Binary64

end SharedEditing.Decimal
