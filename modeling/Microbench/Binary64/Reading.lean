import Microbench.Binary64.Basic
import Microbench.Decimal.Rounding

/-!
# Reading numbers

The datum nearest to a decimal text; a number half-way between two data goes to the even one.
Texts have an optional sign, then digits with at most one point and an optional power of ten, or
one of the names of infinity and of no number in any case.
-/

namespace Microbench.Binary64

/-- Magnitude bits of the datum nearest to a quotient. -/
def nearest (numerator denominator : Nat) : Nat :=
  let scaled := numerator * unitsPerOne
  let scale := (scaled / denominator).log2 - 52
  min infinityBits (scale * fractions + roundDiv .even scaled (denominator <<< scale))

/-- Powers of ten beyond this limit leave the range of data. -/
def exponentLimit : Nat := 400

/-- Magnitude bits of the datum nearest to the number with the given digits, the last of which has
the given power of ten. -/
def nearestDecimal (digitCount coefficient : Nat) (exponent : Int) : Nat :=
  if coefficient = 0 then 0
  else if exponent < -(digitCount + exponentLimit : Nat) then 0
  else if exponentLimit < exponent then infinityBits
  else if 0 ≤ exponent then nearest (coefficient * tenTo exponent.toNat) 1
  else nearest coefficient (tenTo (-exponent).toNat)

def digitValue (digit : Char) : Nat := digit.toNat - '0'.toNat

/-- The number that a list of digits denotes. -/
def ofDigits (digits : List Char) : Nat :=
  digits.foldl (fun value digit => 10 * value + digitValue digit) 0

/-- The power of ten after the letter, if the text is empty or has one. -/
def readExponent? : List Char → Option Int
  | [] => some 0
  | letter :: rest =>
    if letter = 'e' ∨ letter = 'E' then
      let (negative, digits) := match rest with
        | '-' :: digits => (true, digits)
        | '+' :: digits => (false, digits)
        | digits => (false, digits)
      if digits.isEmpty || !digits.all Char.isDigit then none
      else
        let value : Int := ofDigits digits
        some (if negative then -value else value)
    else none

/-- Magnitude bits of an unsigned number with digits. -/
def readNumber? (text : List Char) : Option Nat :=
  let whole := text.takeWhile Char.isDigit
  let afterWhole := text.dropWhile Char.isDigit
  let (fraction, afterFraction) := match afterWhole with
    | '.' :: rest => (rest.takeWhile Char.isDigit, rest.dropWhile Char.isDigit)
    | rest => ([], rest)
  let digits := whole ++ fraction
  if digits.isEmpty then none
  else
    (readExponent? afterFraction).map fun exponent =>
      nearestDecimal digits.length (ofDigits digits) (exponent - fraction.length)

/-- Magnitude bits of an unsigned text: a number or a name. -/
def readMagnitude? (text : List Char) : Option Nat :=
  let name := text.map Char.toLower
  if name = "inf".toList ∨ name = "infinity".toList then some infinityBits
  else if name = "nan".toList then some (infinityBits + fractions / 2)
  else readNumber? text

/-- The datum that a text denotes. -/
def read? (text : List Char) : Option Binary64 :=
  match text with
  | '-' :: rest => (readMagnitude? rest).map (ofMagnitude true)
  | '+' :: rest => (readMagnitude? rest).map (ofMagnitude false)
  | rest => (readMagnitude? rest).map (ofMagnitude false)

end Microbench.Binary64
