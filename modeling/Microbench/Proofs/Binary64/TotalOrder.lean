import Microbench.Proofs.Binary64.Nearest

/-!
# The total order by its rules

The total order of data is computed from their bits. Its rules speak of what the bits mean: numbers
stand in the order of their values, negative zero before zero, and the data that are no numbers
beyond all numbers, on the side of their signs and in the order of their payloads.
-/

namespace Microbench.Binary64

variable {first second : Binary64}

/-- The value of a number, in units. Infinity counts as more units than every finite number. -/
def signedUnits (datum : Binary64) : Int :=
  if datum.isNegative then -(datum.units : Int) else datum.units

/-- One datum stands before another one in the total order. A payload that signals is smaller than
every one that does not, as this is told by the leading bit of the fraction. -/
inductive Precedes : Binary64 → Binary64 → Prop where
  | value {first second : Binary64} (isNumber : first.isNaN = false)
    (isOtherNumber : second.isNaN = false) (less : first.signedUnits < second.signedUnits) :
    Precedes first second
  | zero {first second : Binary64} (isZero : first.signedUnits = 0)
    (isOtherZero : second.signedUnits = 0) (negative : first.isNegative = true)
    (positive : second.isNegative = false) : Precedes first second
  | belowNumber {first second : Binary64} (isNaN : first.isNaN = true)
    (negative : first.isNegative = true) (isNumber : second.isNaN = false) : Precedes first second
  | aboveNumber {first second : Binary64} (isNumber : first.isNaN = false)
    (isNaN : second.isNaN = true) (positive : second.isNegative = false) : Precedes first second
  | signs {first second : Binary64} (isNaN : first.isNaN = true) (isOtherNaN : second.isNaN = true)
    (negative : first.isNegative = true) (positive : second.isNegative = false) :
    Precedes first second
  | positivePayload {first second : Binary64} (isNaN : first.isNaN = true)
    (isOtherNaN : second.isNaN = true) (positive : first.isNegative = false)
    (otherPositive : second.isNegative = false)
    (less : first.fractionField < second.fractionField) : Precedes first second
  | negativePayload {first second : Binary64} (isNaN : first.isNaN = true)
    (isOtherNaN : second.isNaN = true) (negative : first.isNegative = true)
    (otherNegative : second.isNegative = true)
    (less : second.fractionField < first.fractionField) : Precedes first second

theorem units_lt_of_magnitudeBits_lt (less : first.magnitudeBits < second.magnitudeBits) :
    first.units < second.units := by
  rw [magnitudeBits_eq, magnitudeBits_eq] at less
  have small := first.significand_lt
  rw [units_eq, units_eq]
  rcases Nat.lt_trichotomy first.scale second.scale with finer | same | coarser
  · -- A coarser scale begins where the one below it ends.
    have large := le_significand (Nat.zero_lt_of_lt finer)
    have double : 2 * 2 ^ first.scale ≤ 2 ^ second.scale := by
      rw [← Nat.pow_succ']
      exact Nat.pow_le_pow_right (by decide) finer
    calc first.significand * 2 ^ first.scale
        < 2 * fractions * 2 ^ first.scale := Nat.mul_lt_mul_of_pos_right small (Nat.two_pow_pos _)
      _ = fractions * (2 * 2 ^ first.scale) := by ring
      _ ≤ second.significand * 2 ^ second.scale := Nat.mul_le_mul large double
  · rw [same] at less ⊢
    exact Nat.mul_lt_mul_of_pos_right (by omega) (Nat.two_pow_pos _)
  · have otherSmall := second.significand_lt
    have large := le_significand (Nat.zero_lt_of_lt coarser)
    simp only [fractions] at less large otherSmall
    omega

theorem units_lt_iff : first.units < second.units ↔ first.magnitudeBits < second.magnitudeBits := by
  constructor
  · intro less
    rcases Nat.lt_trichotomy first.magnitudeBits second.magnitudeBits with below | same | above
    · exact below
    · have equal : first.units = second.units := by
        unfold units significand scale exponentField fractionField
        rw [same]
      exact absurd less (by omega)
    · exact absurd less (Nat.lt_asymm (units_lt_of_magnitudeBits_lt above))
  · exact units_lt_of_magnitudeBits_lt

theorem isNaN_eq_true : first.isNaN = true ↔ infinityBits < first.magnitudeBits :=
  decide_eq_true_iff

theorem isNaN_eq_false : first.isNaN = false ↔ first.magnitudeBits ≤ infinityBits := by
  rw [← Bool.not_eq_true, isNaN_eq_true, Nat.not_lt]

/-- Of data that are no numbers the bits differ in the payload only. -/
theorem magnitudeBits_of_isNaN (isNaN : first.isNaN = true) :
    first.magnitudeBits = infinityBits + first.fractionField := by
  rw [isNaN_eq_true] at isNaN
  have bound : first.magnitudeBits < signBit := Nat.mod_lt _ (by decide)
  simp only [fractionField, infinityBits, fractions, signBit] at isNaN bound ⊢
  omega

theorem orderKey_negative (negative : first.isNegative = true) :
    first.orderKey = -(first.magnitudeBits : Int) - 1 :=
  if_pos negative

theorem orderKey_positive (positive : first.isNegative = false) :
    first.orderKey = first.magnitudeBits :=
  if_neg (by simp [positive])

/-- Places are compared like values, and signs decide between two zeros. -/
theorem orderKey_lt_iff :
    first.orderKey < second.orderKey ↔
      first.signedUnits < second.signedUnits ∨
        first.signedUnits = 0 ∧ second.signedUnits = 0 ∧
          first.isNegative = true ∧ second.isNegative = false := by
  have less : first.units < second.units ↔ first.magnitudeBits < second.magnitudeBits :=
    units_lt_iff
  have more : second.units < first.units ↔ second.magnitudeBits < first.magnitudeBits :=
    units_lt_iff
  rw [signedUnits, signedUnits]
  cases negative : first.isNegative with
  | true =>
      rw [orderKey_negative negative]
      cases otherNegative : second.isNegative with
      | true => simp [orderKey_negative otherNegative, more]
      | false =>
          simp only [orderKey_positive otherNegative, if_true, Bool.false_eq_true, if_false,
            and_true]
          omega
  | false =>
      rw [orderKey_positive negative]
      cases otherNegative : second.isNegative with
      | true =>
          simp only [orderKey_negative otherNegative, if_true, Bool.false_eq_true, if_false,
            false_and, and_false, or_false]
          omega
      | false => simp [orderKey_positive otherNegative, less]

theorem Precedes.orderKey_lt (precedes : Precedes first second) :
    first.orderKey < second.orderKey := by
  cases precedes with
  | value isNumber isOtherNumber less => exact orderKey_lt_iff.mpr (.inl less)
  | zero isZero isOtherZero negative positive =>
      exact orderKey_lt_iff.mpr (.inr ⟨isZero, isOtherZero, negative, positive⟩)
  | belowNumber isNaN negative isNumber =>
      have large := isNaN_eq_true.mp isNaN
      have small := isNaN_eq_false.mp isNumber
      rw [orderKey_negative negative, orderKey]
      split <;> omega
  | aboveNumber isNumber isNaN positive =>
      have large := isNaN_eq_true.mp isNaN
      have small := isNaN_eq_false.mp isNumber
      rw [orderKey_positive positive, orderKey]
      split <;> omega
  | signs isNaN isOtherNaN negative positive =>
      rw [orderKey_negative negative, orderKey_positive positive]
      omega
  | positivePayload isNaN isOtherNaN positive otherPositive less =>
      rw [orderKey_positive positive, orderKey_positive otherPositive,
        magnitudeBits_of_isNaN isNaN, magnitudeBits_of_isNaN isOtherNaN]
      omega
  | negativePayload isNaN isOtherNaN negative otherNegative less =>
      rw [orderKey_negative negative, orderKey_negative otherNegative,
        magnitudeBits_of_isNaN isNaN, magnitudeBits_of_isNaN isOtherNaN]
      omega

/-- A number and a datum that is none: the sign of the latter decides. -/
theorem precedes_of_number (isNumber : first.isNaN = false) (isNaN : second.isNaN = true)
    (less : first.orderKey < second.orderKey) : Precedes first second := by
  have large := isNaN_eq_true.mp isNaN
  have small := isNaN_eq_false.mp isNumber
  cases negative : second.isNegative with
  | false => exact .aboveNumber isNumber isNaN negative
  | true =>
      rw [orderKey_negative negative, orderKey] at less
      split at less <;> omega

theorem precedes_number (isNaN : first.isNaN = true) (isNumber : second.isNaN = false)
    (less : first.orderKey < second.orderKey) : Precedes first second := by
  have large := isNaN_eq_true.mp isNaN
  have small := isNaN_eq_false.mp isNumber
  cases negative : first.isNegative with
  | true => exact .belowNumber isNaN negative isNumber
  | false =>
      rw [orderKey_positive negative, orderKey] at less
      split at less <;> omega

theorem precedes_of_isNaN (isNaN : first.isNaN = true) (isOtherNaN : second.isNaN = true)
    (less : first.orderKey < second.orderKey) : Precedes first second := by
  have bits := magnitudeBits_of_isNaN isNaN
  have otherBits := magnitudeBits_of_isNaN isOtherNaN
  cases negative : first.isNegative with
  | true =>
      cases otherNegative : second.isNegative with
      | true =>
          rw [orderKey_negative negative, orderKey_negative otherNegative] at less
          exact .negativePayload isNaN isOtherNaN negative otherNegative (by omega)
      | false => exact .signs isNaN isOtherNaN negative otherNegative
  | false =>
      cases otherNegative : second.isNegative with
      | true =>
          rw [orderKey_positive negative, orderKey_negative otherNegative] at less
          omega
      | false =>
          rw [orderKey_positive negative, orderKey_positive otherNegative] at less
          exact .positivePayload isNaN isOtherNaN negative otherNegative (by omega)

theorem precedes_iff : Precedes first second ↔ first.orderKey < second.orderKey := by
  constructor
  · exact Precedes.orderKey_lt
  · intro less
    cases isNaN : first.isNaN with
    | false =>
        cases isOtherNaN : second.isNaN with
        | false =>
            rcases orderKey_lt_iff.mp less with values | ⟨isZero, isOtherZero, negative, positive⟩
            · exact .value isNaN isOtherNaN values
            · exact .zero isZero isOtherZero negative positive
        | true => exact precedes_of_number isNaN isOtherNaN less
    | true =>
        cases isOtherNaN : second.isNaN with
        | false => exact precedes_number isNaN isOtherNaN less
        | true => exact precedes_of_isNaN isNaN isOtherNaN less

/-- The total order has equal data and those that stand before one another, by its rules. -/
theorem totalLE_iff : first.totalLE second = true ↔ first = second ∨ Precedes first second := by
  rw [totalLE, decide_eq_true_eq, precedes_iff]
  constructor
  · intro le
    rcases le.eq_or_lt with same | less
    · exact .inl (eq_of_orderKey_eq same)
    · exact .inr less
  · rintro (rfl | less)
    · exact le_refl _
    · exact less.le

end Microbench.Binary64
