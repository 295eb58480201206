/-!
# Quantiles by interpolation

The quantile `q` of `n` sorted samples lies at position `q * (n + 1)`, counted from one.  Between
two positions it is interpolated; before the first and from the last on it is the sample itself.
The rule is stated over any scalars, so that the floating-point quantile and the exact rational
one are the same definition.
-/

namespace Microbench

/-- Numbers that quantiles are computed with. -/
class Scalar (α : Type) extends Add α, Sub α, Mul α where
  ofNat : Nat → α
  /-- The whole part of a scalar that is not negative. -/
  whole : α → Nat
  /-- Whether the first scalar is at most the second. -/
  atMost : α → α → Bool

instance : Scalar Float where
  ofNat n := n.toFloat
  whole value := value.toUInt64.toNat
  atMost first second := first ≤ second

instance : Scalar Rat where
  ofNat n := n
  whole value := value.floor.toNat
  atMost first second := first ≤ second

namespace Quantile

variable {α : Type} [Scalar α]

/-- Whether a scalar is a fraction of one. -/
def isFraction (quantile : α) : Bool :=
  Scalar.atMost (Scalar.ofNat 0) quantile && Scalar.atMost quantile (Scalar.ofNat 1)

/-- Position of a quantile among samples, counted from one. -/
def position (count : Nat) (quantile : α) : α := quantile * Scalar.ofNat (count + 1)

/-- The point between two samples. -/
def between (lower upper weight : α) : α := lower + weight * (upper - lower)

/-- The value at a position among sorted samples that are not empty. -/
def interpolate (first : α) (rest : List α) (place : α) : α :=
  let sorted := first :: rest
  let index := Scalar.whole place
  if index < 1 then first
  else if sorted.length ≤ index then sorted.getLastD first
  else
    between (sorted.getD (index - 1) first) (sorted.getD index first)
      (place - Scalar.ofNat index)

/-- The value of a quantile of sorted samples, zero if there are none. -/
def ofSorted : List α → α → α
  | [], _ => Scalar.ofNat 0
  | first :: rest, quantile =>
    interpolate first rest (position (rest.length + 1) quantile)

/-- The value of a quantile of sorted samples, if it is a fraction of one. -/
def valueAt? (sorted : List α) (quantile : α) : Option α :=
  if isFraction quantile then some (ofSorted sorted quantile) else none

end Quantile

end Microbench
