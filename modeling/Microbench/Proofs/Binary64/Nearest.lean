import Microbench.Binary64.Reading
import Microbench.Binary64.Shortest
import Mathlib.Tactic.Linarith
import Mathlib.Tactic.Ring

/-!
# The datum nearest to a number

A number that lies in the interval of a datum is read as this datum. The interval is given by its
ends in quarters of a unit, which is how the shortest text is searched for; reading rounds a
quotient at a scale that it finds from the quotient itself.

The two scales agree except just below a power of two. There the quotient lies in the finer scale
below, and is rounded up to the next coarser one.
-/

namespace Microbench

theorem roundDiv_even_eq {numerator denominator quotient : Nat} (positive : 0 < denominator)
    (low : 2 * (quotient * denominator) ≤ 2 * numerator + denominator)
    (high : 2 * numerator ≤ 2 * (quotient * denominator) + denominator)
    (odd : quotient % 2 = 1 →
      2 * (quotient * denominator) < 2 * numerator + denominator ∧
        2 * numerator < 2 * (quotient * denominator) + denominator) :
    roundDiv .even numerator denominator = quotient := by
  have split := Nat.div_add_mod numerator denominator
  have small := Nat.mod_lt numerator positive
  have comm := Nat.mul_comm quotient denominator
  have notAbove : quotient < numerator / denominator + 2 := by
    by_contra large
    have product := Nat.mul_le_mul_left denominator (Nat.le_of_not_lt large)
    rw [Nat.mul_add] at product
    omega
  have notBelow : numerator / denominator < quotient + 1 := by
    by_contra large
    have product := Nat.mul_le_mul_left denominator (Nat.le_of_not_lt large)
    rw [Nat.mul_add] at product
    omega
  rcases (show quotient = numerator / denominator ∨ quotient = numerator / denominator + 1 by
    omega) with equal | equal
  · rw [equal] at low high odd comm
    simp only [roundDiv, TieRule.goesUp, beq_iff_eq]
    split
    · exact equal.symm
    · rw [if_neg (by omega), if_neg (by omega)]
      exact equal.symm
  · rw [equal] at low high odd comm
    rw [Nat.mul_add, Nat.mul_one] at comm
    simp only [roundDiv, TieRule.goesUp, beq_iff_eq]
    rw [if_neg (by omega)]
    split
    · exact equal.symm
    · rw [if_pos (by omega)]
      exact equal.symm

namespace Binary64

theorem magnitudeBits_eq (datum : Binary64) :
    datum.magnitudeBits = datum.scale * fractions + datum.significand := by
  have division := Nat.div_add_mod datum.magnitudeBits fractions
  rw [significand, scale]
  by_cases least : datum.exponentField = 0
  · rw [if_pos least]
    simp only [exponentField, fractionField, fractions] at least division ⊢
    omega
  · rw [if_neg least]
    simp only [exponentField, fractionField, fractions] at least division ⊢
    omega

theorem significand_lt (datum : Binary64) : datum.significand < 2 * fractions := by
  have small : datum.fractionField < fractions := Nat.mod_lt _ (by decide)
  unfold significand
  split <;> omega

theorem le_significand {datum : Binary64} (scaled : 0 < datum.scale) :
    fractions ≤ datum.significand := by
  simp only [scale] at scaled
  rw [significand, if_neg (by omega)]
  omega

theorem units_eq (datum : Binary64) : datum.units = datum.significand * 2 ^ datum.scale :=
  Nat.shiftLeft_eq _ _

theorem gapAbove_eq (datum : Binary64) : datum.gapAbove = 2 * 2 ^ datum.scale :=
  Nat.shiftLeft_eq _ _

theorem gapBelow_le (datum : Binary64) : datum.gapBelow ≤ 2 * 2 ^ datum.scale := by
  unfold gapBelow
  split
  · rw [Nat.shiftLeft_eq]
    omega
  · rw [Nat.shiftLeft_eq]

theorem two_le_gapBelow (datum : Binary64) : 2 ≤ datum.gapBelow := by
  unfold gapBelow
  split
  · rename_i narrow
    have even : 2 ^ 1 ≤ 2 ^ datum.scale := by
      apply Nat.pow_le_pow_right (by decide)
      exact Nat.le_sub_one_of_lt narrow.2
    rw [Nat.shiftLeft_eq]
    omega
  · have := Nat.two_pow_pos datum.scale
    rw [Nat.shiftLeft_eq]
    omega

/-- Only the least significand of a scale has less room below, and only above the least scale. -/
theorem gapBelow_of_ne {datum : Binary64}
    (room : datum.scale = 0 ∨ datum.significand ≠ fractions) :
    datum.gapBelow = 2 * 2 ^ datum.scale := by
  have wide : ¬(datum.fractionField = 0 ∧ 1 < datum.exponentField) := by
    rintro ⟨zero, large⟩
    rcases room with least | other
    · simp only [scale] at least
      omega
    · apply other
      rw [significand, if_neg (by omega), zero, Nat.zero_add]
  rw [gapBelow, if_neg wide, Nat.shiftLeft_eq]

theorem gapBelow_of_eq {datum : Binary64} (scaled : 0 < datum.scale)
    (least : datum.significand = fractions) : datum.gapBelow = 2 ^ datum.scale := by
  have exponent : datum.exponentField ≠ 0 := by
    simp only [scale] at scaled
    omega
  rw [significand, if_neg exponent] at least
  have zero : datum.fractionField = 0 := by omega
  simp only [scale] at scaled ⊢
  rw [gapBelow, if_pos ⟨zero, by omega⟩, scale, Nat.shiftLeft_eq, Nat.one_mul]

/-- A quotient, in units, lies in the interval of numbers that round to the datum. -/
structure Covers (datum : Binary64) (numerator denominator : Nat) : Prop where
  low : 4 * (datum.units * denominator) ≤ 4 * numerator + datum.gapBelow * denominator
  high : 4 * numerator ≤ 4 * (datum.units * denominator) + datum.gapAbove * denominator
  odd : datum.significand % 2 = 1 →
    4 * (datum.units * denominator) < 4 * numerator + datum.gapBelow * denominator ∧
      4 * numerator < 4 * (datum.units * denominator) + datum.gapAbove * denominator

section Covers

variable {datum : Binary64} {numerator denominator : Nat}

/-- The rounded quotient at the scale of the datum. -/
theorem roundDiv_at_scale (positive : 0 < denominator)
    (covers : datum.Covers numerator denominator) :
    roundDiv .even numerator (denominator <<< datum.scale) = datum.significand := by
  rcases covers with ⟨low, high, odd⟩
  have gap := Nat.mul_le_mul_right denominator datum.gapBelow_le
  have above := datum.gapAbove_eq
  have units := datum.units_eq
  rw [Nat.shiftLeft_eq]
  generalize datum.scale = scale at *
  have shape : datum.units * denominator = datum.significand * (denominator * 2 ^ scale) := by
    rw [units]
    ring
  have gapShape : 2 * 2 ^ scale * denominator = 2 * (denominator * 2 ^ scale) := by ring
  rw [above] at high odd
  rw [shape] at low high odd
  rw [gapShape] at gap high odd
  apply roundDiv_even_eq
  · exact Nat.mul_pos positive (Nat.two_pow_pos scale)
  · omega
  · omega
  · intro isOdd
    have strict := odd isOdd
    omega

theorem quotient_lt (positive : 0 < denominator) (covers : datum.Covers numerator denominator) :
    numerator < 2 * fractions * (2 ^ datum.scale * denominator) := by
  have high := covers.high
  have step : 0 < 2 ^ datum.scale * denominator := Nat.mul_pos (Nat.two_pow_pos _) positive
  have product := Nat.mul_le_mul_right (2 ^ datum.scale * denominator) datum.significand_lt
  rw [datum.gapAbove_eq, datum.units_eq, Nat.mul_assoc _ (2 ^ _), Nat.mul_assoc 2] at high
  rw [Nat.succ_mul] at product
  omega

/-- A quotient that reaches the scale of the datum is rounded at this scale. -/
theorem nearest_scale_eq (positive : 0 < denominator) (covers : datum.Covers numerator denominator)
    (reaches : datum.scale = 0 ∨ fractions * (2 ^ datum.scale * denominator) ≤ numerator) :
    (numerator / denominator).log2 - 52 = datum.scale := by
  have quotientBelow : numerator / denominator < 2 ^ (53 + datum.scale) := by
    rw [Nat.div_lt_iff_lt_mul positive, Nat.pow_add, Nat.mul_assoc]
    exact quotient_lt positive covers
  by_cases zero : numerator / denominator = 0
  · rcases reaches with least | large
    · rw [zero, least]
      rfl
    · have step : 0 < 2 ^ datum.scale := Nat.two_pow_pos _
      rw [Nat.div_eq_zero_iff_lt positive] at zero
      have product := Nat.mul_le_mul_right denominator step
      simp only [fractions] at large
      omega
  · have upper := (Nat.log2_lt zero).mpr quotientBelow
    rcases reaches with least | large
    · omega
    · have quotientAbove : 2 ^ (52 + datum.scale) ≤ numerator / denominator := by
        rw [Nat.le_div_iff_mul_le positive, Nat.pow_add, Nat.mul_assoc]
        exact large
      have lower := (Nat.le_log2 zero).mpr quotientAbove
      omega

/-- Only a number just below a power of two does not reach the scale of its datum. -/
theorem significand_eq_of_short (covers : datum.Covers numerator denominator)
    (scaled : datum.scale ≠ 0)
    (short : numerator < fractions * (2 ^ datum.scale * denominator)) :
    datum.significand = fractions := by
  by_contra other
  have large := le_significand (Nat.pos_of_ne_zero scaled)
  have low := covers.low
  rw [gapBelow_of_ne (Or.inr other), datum.units_eq, Nat.mul_assoc _ (2 ^ _),
    Nat.mul_assoc 2] at low
  have room : fractions + 1 ≤ datum.significand := by omega
  have product := Nat.mul_le_mul_right (2 ^ datum.scale * denominator) room
  rw [Nat.add_mul] at product
  omega

/-- A number just below a power of two is rounded at the scale below. -/
theorem nearest_of_short (positive : 0 < denominator) (covers : datum.Covers numerator denominator)
    (scaled : datum.scale ≠ 0)
    (short : numerator < fractions * (2 ^ datum.scale * denominator)) :
    (numerator / denominator).log2 - 52 = datum.scale - 1 ∧
      roundDiv .even numerator (denominator <<< (datum.scale - 1)) = 2 * fractions := by
  have least := significand_eq_of_short covers scaled short
  have low := covers.low
  rw [gapBelow_of_eq (Nat.pos_of_ne_zero scaled) least, datum.units_eq, least,
    Nat.mul_assoc _ (2 ^ _)] at low
  rcases Nat.exists_eq_succ_of_ne_zero scaled with ⟨finer, equal⟩
  rw [equal] at low short ⊢
  have halves : 2 ^ finer.succ * denominator = 2 * (2 ^ finer * denominator) := by
    rw [Nat.pow_succ]
    ring
  rw [halves] at low short
  have step : 0 < 2 ^ finer * denominator := Nat.mul_pos (Nat.two_pow_pos _) positive
  have one := Nat.mul_le_mul_right denominator (Nat.two_pow_pos finer)
  simp only [fractions] at low short ⊢
  rw [Nat.succ_sub_one]
  constructor
  · have quotientBelow : numerator / denominator < 2 ^ (53 + finer) := by
      rw [Nat.div_lt_iff_lt_mul positive, Nat.pow_add, Nat.mul_assoc]
      omega
    have quotientAbove : 2 ^ (52 + finer) ≤ numerator / denominator := by
      rw [Nat.le_div_iff_mul_le positive, Nat.pow_add, Nat.mul_assoc]
      omega
    have zero : numerator / denominator ≠ 0 := by
      have := Nat.two_pow_pos (52 + finer)
      omega
    have upper := (Nat.log2_lt zero).mpr quotientBelow
    have lower := (Nat.le_log2 zero).mpr quotientAbove
    omega
  · rw [Nat.shiftLeft_eq, Nat.mul_comm denominator]
    apply roundDiv_even_eq step
    · omega
    · omega
    · intro odd
      cases odd

/-- A number in the interval of a datum is nearest to this datum. -/
theorem nearest_eq (finite : datum.isFinite = true) (positive : 0 < denominator)
    (covers : datum.Covers (numerator * unitsPerOne) denominator) :
    nearest numerator denominator = datum.magnitudeBits := by
  have bounded : datum.magnitudeBits ≤ infinityBits := by
    simp only [isFinite, decide_eq_true_eq] at finite
    omega
  rw [nearest]
  by_cases reaches : datum.scale = 0 ∨
      fractions * (2 ^ datum.scale * denominator) ≤ numerator * unitsPerOne
  · rw [nearest_scale_eq positive covers reaches, roundDiv_at_scale positive covers,
      ← magnitudeBits_eq, Nat.min_eq_right bounded]
  · rw [not_or, Nat.not_le] at reaches
    rcases reaches with ⟨scaled, short⟩
    rcases nearest_of_short positive covers scaled short with ⟨finer, rounded⟩
    have shape : (datum.scale - 1) * fractions + 2 * fractions = datum.magnitudeBits := by
      rw [magnitudeBits_eq, significand_eq_of_short covers scaled short, Nat.sub_mul, fractions]
      omega
    rw [finer, rounded, shape, Nat.min_eq_right bounded]

end Covers

end Binary64

end Microbench
