import SharedEditing.Decimal.Shortest

/-! # Text of a binary64 number

Where positional notation ends and how an exponent is written is one record;
the digits come from `Shortest`. -/

namespace SharedEditing.Decimal

structure Layout where
  /-- The least power of ten written positionally. -/
  leastPlain : Int
  /-- The greatest power of ten written positionally. -/
  greatestPlain : Int
  exponentMark : Char
  signPositiveExponent : Bool
  deriving Repr

def zeros (count : Nat) : List Char := List.replicate count '0'

def digitChars (digits : List Nat) : List Char :=
  digits.map fun digit => Char.ofNat ('0'.toNat + digit)

namespace Layout

/-- Positional notation always has a fraction. -/
def plain (digits : List Char) (exponent : Int) : List Char :=
  if exponent < 0 then
    '0' :: '.' :: zeros ((-exponent).toNat - 1) ++ digits
  else
    let whole := exponent.toNat + 1
    if digits.length ≤ whole then
      digits ++ zeros (whole - digits.length) ++ ['.', '0']
    else
      digits.take whole ++ '.' :: digits.drop whole

/-- Scientific notation has a fraction only where more than one digit is needed. -/
def scientific (layout : Layout) (digits : List Char) (exponent : Int) : List Char :=
  let fraction := match digits.drop 1 with
    | [] => []
    | rest => '.' :: rest
  let sign := if exponent < 0 then ['-'] else if layout.signPositiveExponent then ['+'] else []
  digits.take 1 ++ fraction ++ layout.exponentMark :: sign ++ Nat.toDigits 10 exponent.natAbs

def write (layout : Layout) (number : Binary64) : String :=
  let sign := if number.negative then ['-'] else []
  let body :=
    if number.isZero then
      ['0', '.', '0']
    else
      let shortest := number.shortestDigits
      let digits := digitChars shortest.digits
      if layout.leastPlain ≤ shortest.exponent && shortest.exponent ≤ layout.greatestPlain then
        plain digits shortest.exponent
      else
        layout.scientific digits shortest.exponent
  String.ofList (sign ++ body)

end Layout

end SharedEditing.Decimal
