import Microbench.Binary64.Basic
import Microbench.Decimal.Rounding
import Microbench.Decimal.Basic

/-!
# Texts with a fixed number of places

The exact value of a datum is rounded to a whole number of the last place, a half going to the
even neighbour, and written with all its places.
-/

namespace Microbench.Binary64

/-- The magnitude of a finite datum, in units of the last of `places` decimal places. -/
def roundedToPlaces (datum : Binary64) (places : Nat) : Nat :=
  roundDiv .even (datum.units * tenTo places) unitsPerOne

/-- The text of a datum with exactly `places` decimal places. -/
def fixed (datum : Binary64) (places : Nat) : List Char :=
  if datum.isNaN then ['N', 'a', 'N']
  else if datum.isInfinite then datum.signText ++ ['i', 'n', 'f']
  else datum.signText ++ Decimal.positional [] ⟨datum.roundedToPlaces places, -places⟩

end Microbench.Binary64
