import Microbench.Binary64.Basic
import Microbench.Decimal.Rounding
import Microbench.Decimal.Basic

/-!
# Shortest texts

A decimal number reads back as a datum when it lies in the interval of numbers that round to it.
The shortest such number lies on the coarsest grid of powers of ten that meets the interval, and
is one of the datum's two neighbours on that grid.  Grids are counted from a finest one that meets
every interval, so all comparisons are between natural numbers.
-/

namespace Microbench.Binary64

/-- The finest grid consists of the multiples of ten to the power of minus this. -/
def finestPlaces : Nat := 345

/-- Distance, in quarters of a unit, to the end of the interval below. -/
def gapBelow (datum : Binary64) : Nat :=
  if datum.fractionField = 0 ∧ 1 < datum.exponentField then 1 <<< datum.scale
  else 2 <<< datum.scale

/-- Distance, in quarters of a unit, to the end of the interval above. -/
def gapAbove (datum : Binary64) : Nat := 2 <<< datum.scale

/-- Quarters of a unit, on the scale on which the finest grid is whole. -/
def onGridScale (quarters : Nat) : Nat := quarters * tenTo finestPlaces

/-- A point of the grid of a level, on the same scale. -/
def gridPoint (level point : Nat) : Nat := point * tenTo level * (4 * unitsPerOne)

/-- Whether a point of a grid rounds to the magnitude of the datum. -/
def readsBack (datum : Binary64) (level point : Nat) : Bool :=
  let place := gridPoint level point
  let low := onGridScale (4 * datum.units - datum.gapBelow)
  let high := onGridScale (4 * datum.units + datum.gapAbove)
  if datum.significand % 2 = 0 then low ≤ place && place ≤ high
  else low < place && place < high

/-- The neighbour of the datum on a grid that reads back; of two, the nearer. -/
def neighbour? (tie : TieRule) (datum : Binary64) (level : Nat) : Option Nat :=
  let value := onGridScale (4 * datum.units)
  let below := value / gridPoint level 1
  match datum.readsBack level below, datum.readsBack level (below + 1) with
  | true, false => some below
  | false, true => some (below + 1)
  | false, false => none
  | true, true =>
    let fromBelow := value - gridPoint level below
    let toAbove := gridPoint level (below + 1) - value
    if fromBelow < toAbove then some below
    else if toAbove < fromBelow then some (below + 1)
    else if tie.goesUp below then some (below + 1) else some below

/-- The point on the coarsest grid, from a level downwards, that reads back. -/
def coarsest (tie : TieRule) (datum : Binary64) : Nat → Decimal
  | 0 => ⟨(datum.neighbour? tie 0).getD 0, -finestPlaces⟩
  | level + 1 =>
    match datum.neighbour? tie (level + 1) with
    | some point => ⟨point, (level + 1 : Nat) - (finestPlaces : Int)⟩
    | none => coarsest tie datum level

/-- A level whose grid is coarser than the datum. -/
def topLevel (datum : Binary64) : Nat :=
  (datum.units * tenTo finestPlaces / unitsPerOne).log2 * 78 / 256 + 1

/-- The decimal number with the fewest digits that reads back as the magnitude of a datum. -/
def shortest (tie : TieRule) (datum : Binary64) : Decimal :=
  if datum.magnitudeBits = 0 then ⟨0, 0⟩ else datum.coarsest tie datum.topLevel

/-- Positional notation throughout, whole numbers without a point. -/
def plainStyle : NumberStyle := ⟨[], fun _ => true⟩

/-- The shortest text that reads back, never with a power of ten. -/
def plain (datum : Binary64) : List Char :=
  if datum.isNaN then ['N', 'a', 'N']
  else if datum.isInfinite then datum.signText ++ ['i', 'n', 'f']
  else datum.signText ++ (datum.shortest .up).text plainStyle

end Microbench.Binary64
