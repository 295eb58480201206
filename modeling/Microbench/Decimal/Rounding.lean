/-!
# Rounding quotients

Every conversion between binary and decimal numbers ends in one rounded quotient of naturals.
`roundDiv` takes the nearest whole number; a quotient half-way between two of them goes as the
tie rule says.
-/

namespace Microbench

def tenTo (exponent : Nat) : Nat := Nat.pow 10 exponent

/-- Where a number half-way between two neighbours goes. -/
inductive TieRule where
  /-- To the larger neighbour. -/
  | up
  /-- To the neighbour that is even. -/
  | even
deriving DecidableEq

namespace TieRule

/-- Whether a number half-way above `below` goes to the neighbour above. -/
def goesUp (rule : TieRule) (below : Nat) : Bool :=
  match rule with
  | up => true
  | even => below % 2 == 1

end TieRule

/-- The whole number nearest to a quotient. -/
def roundDiv (rule : TieRule) (numerator denominator : Nat) : Nat :=
  let below := numerator / denominator
  let twice := 2 * (numerator % denominator)
  if twice < denominator then below
  else if denominator < twice then below + 1
  else if rule.goesUp below then below + 1 else below

end Microbench
