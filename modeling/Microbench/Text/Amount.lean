import Microbench.Binary64.Fixed
import Microbench.Text.Grouping

/-!
# Texts of measured amounts

Amounts are shown with a fixed number of places, or with roughly a number of significant digits:
then the places are what the digits of the whole part leave over.
-/

namespace Microbench.Amount

/-- Magnitudes below this count as zero. -/
def negligible : Float := 1.0 / 1000.0 / 2.0

/-- Whether an amount is no number or too small to be told from zero. -/
def isNaNOrZero (value : Float) : Bool := value.isNaN || value.abs < negligible

/-- The most places that a text with significant digits has. -/
def maxPlaces : Float := 20

/-- The text of an amount with a number of places, the whole part grouped on request. -/
def fixed (value : Float) (places : Nat) (grouped : Bool) : String :=
  let datum := Binary64.ofFloat value
  let text := datum.fixed places
  String.ofList (if grouped && datum.isFinite then Grouping.thousands text else text)

/-- The number of places that leaves `precision` significant digits. -/
def placesFor (value : Float) (precision : Nat) : Nat :=
  let magnitude := value.abs.log10.ceil
  if magnitude.isFinite then
    let places := precision.toFloat - magnitude
    (if places < 0 then 0 else if maxPlaces < places then maxPlaces else places).toUInt64.toNat
  else precision

/-- The text of an amount with roughly `precision` significant digits; digits of the whole part
are never dropped. -/
def significant (value : Float) (precision : Nat) : String :=
  fixed value (placesFor value precision) true

end Microbench.Amount
