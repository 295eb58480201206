/-!
# Decimal numbers and their texts

A decimal number is a whole coefficient times a power of ten.  Its text is positional, or
scientific with one digit before the point; a style decides which, and how a whole number ends.
-/

namespace Microbench

/-- A coefficient times a power of ten. -/
structure Decimal where
  /-- The digits, as one number. -/
  coefficient : Nat
  /-- The power of ten of the last digit. -/
  exponent : Int
deriving DecidableEq

/-- How a number is written. -/
structure NumberStyle where
  /-- Follows the digits of a whole number written positionally. -/
  wholeEnd : List Char
  /-- Whether a leading digit with this power of ten is written positionally. -/
  isPositional : Int → Bool

namespace Decimal

def digits (number : Nat) : List Char := Nat.toDigits 10 number

/-- The power of ten of the leading digit. -/
def leadingExponent (decimal : Decimal) : Int :=
  decimal.exponent + ((digits decimal.coefficient).length - 1 : Nat)

/-- The digits with a point where the ones end, zeros filled in on either side. -/
def positional (wholeEnd : List Char) (decimal : Decimal) : List Char :=
  let ds := digits decimal.coefficient
  if 0 ≤ decimal.exponent then
    ds ++ List.replicate decimal.exponent.toNat '0' ++ wholeEnd
  else
    let places := (-decimal.exponent).toNat
    let padded := List.replicate (places + 1 - ds.length) '0' ++ ds
    padded.take (padded.length - places) ++ '.' :: padded.drop (padded.length - places)

/-- One digit before the point, and the power of ten with its sign. -/
def scientific (decimal : Decimal) : List Char :=
  let exponent := decimal.leadingExponent
  let mantissa := match digits decimal.coefficient with
    | [] => []
    | [digit] => [digit]
    | digit :: rest => digit :: '.' :: rest
  mantissa ++ 'e' :: (if exponent < 0 then '-' else '+') :: digits exponent.natAbs

def text (style : NumberStyle) (decimal : Decimal) : List Char :=
  if style.isPositional decimal.leadingExponent then decimal.positional style.wholeEnd
  else decimal.scientific

end Decimal

end Microbench
