import SharedEditing.Json.Basic

/-! # Numbers as they are written

A numeral is an integer part, an optional fraction and an optional exponent.
An integer that fits 64 bits is exact. Every other numeral is a binary64
number: the leading digits that fit an unsigned 64-bit word are its
significand, the digits after them only move the decimal point, and the
significand is scaled once by the binary64 power of ten. Powers beyond
`10 ^ 308` are reached by dividing by `10 ^ 308` first. -/

namespace SharedEditing

open Decimal

structure Numeral where
  negative : Bool
  whole : List Nat
  fraction : Option (List Nat)
  /-- The sign and the digits of the exponent. -/
  exponent : Option (Bool × List Nat)
  deriving DecidableEq, Repr

namespace Numeral

def greatestWord : Nat := Nat.pow 2 64 - 1

/-- An exponent beyond this bound is not computed. -/
def greatestExponent : Nat := Nat.pow 2 31 - 1

/-- Append digits to a significand as long as it stays a 64-bit word, and return
the digits left over. -/
def absorb : (significand : Nat) → List Nat → Nat × List Nat
  | significand, [] => (significand, [])
  | significand, digit :: rest =>
      if significand * 10 + digit ≤ greatestWord then absorb (significand * 10 + digit) rest
      else (significand, digit :: rest)

def shrink? (value : Binary64) : Option Binary64 :=
  (Binary64.powerOfTen? 308).bind value.over?

/-- Scale by a power of ten. Too large a result is refused; too small a one is zero. -/
def scale? (value : Binary64) (power : Int) : Option Binary64 :=
  if 0 ≤ power then
    if value.isZero then some value
    else if 308 < power then none
    else (Binary64.powerOfTen? power.toNat).bind value.times?
  else if -308 ≤ power then
    (Binary64.powerOfTen? (-power).toNat).bind value.over?
  else if value.isZero then
    some value
  else
    (shrink? value).bind fun smaller => scale? smaller (power + 308)
  termination_by (-power).toNat
  decreasing_by omega

def exponentValue? : List Nat → (value : Nat) → Option Nat
  | [], value => some value
  | digit :: rest, value =>
      if value * 10 + digit ≤ greatestExponent then exponentValue? rest (value * 10 + digit)
      else none

def decimal? (negative : Bool) (significand : Nat) (power : Int) : Option Binary64 := do
  let unsigned ← Binary64.ofNat? false significand
  let scaled ← scale? unsigned power
  return scaled.withSign negative

/-- The number that a numeral stands for; none when its magnitude is out of range. -/
def number? (numeral : Numeral) : Option Number :=
  let (whole, wholeRest) := absorb 0 numeral.whole
  match numeral.fraction, numeral.exponent with
  | none, none =>
      if wholeRest.isEmpty && !numeral.negative then
        some (.integer whole)
      else if wholeRest.isEmpty && 0 < whole && whole ≤ Nat.pow 2 63 then
        some (.integer (Int.negOfNat whole))
      else
        (decimal? numeral.negative whole wholeRest.length).map .decimal
  | fraction, exponent =>
      let digits := fraction.getD []
      let (significand, fractionRest) := absorb whole digits
      let shift : Int := (wholeRest.length : Int) - (digits.length - fractionRest.length : Nat)
      match exponent with
      | none => (decimal? numeral.negative significand shift).map .decimal
      | some (negativeExponent, exponentDigits) =>
          match exponentValue? exponentDigits 0 with
          | some power =>
              let power : Int := if negativeExponent then -power else power
              (decimal? numeral.negative significand (shift + power)).map .decimal
          | none =>
              if significand = 0 || negativeExponent then
                some (.decimal (Binary64.zero numeral.negative))
              else
                none

end Numeral

end SharedEditing
