/-!
# Whole numbers in texts

A numeral is an optional sign and decimal digits, nothing else.
-/

namespace Microbench.Numeral

/-- The number that decimal digits denote, if there is one at least. -/
def readDigits? (digits : List Char) : Option Nat :=
  if digits.isEmpty || !digits.all Char.isDigit then none
  else some (digits.foldl (fun value digit => 10 * value + (digit.toNat - '0'.toNat)) 0)

/-- The natural number below `bound` that a numeral denotes; it may have a plus sign. -/
def readBelow? (bound : Nat) (text : List Char) : Option Nat :=
  let magnitude := match text with
    | '+' :: digits => readDigits? digits
    | digits => readDigits? digits
  magnitude.filter (· < bound)

/-- The integer from `-bound` up to, but not including, `bound` that a signed numeral denotes. -/
def readWithin? (bound : Nat) (text : List Char) : Option Int :=
  match text with
  | '-' :: digits => (readDigits? digits).bind fun magnitude =>
    if magnitude ≤ bound then some (-(magnitude : Int)) else none
  | digits => (readBelow? bound digits).map Int.ofNat

/-- A numeral of thirty-two bits. -/
def readUInt32? (text : List Char) : Option UInt32 :=
  (readBelow? UInt32.size text).map UInt32.ofNat

/-- A numeral of sixty-four bits. -/
def readUInt64? (text : List Char) : Option UInt64 :=
  (readBelow? UInt64.size text).map UInt64.ofNat

end Microbench.Numeral
