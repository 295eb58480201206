import Microbench.Proofs.Binary64.ShortestTexts

/-!
# Plain texts read back

The plain text of a stored number is read as the very same datum, bit by bit; for a finite datum it
is one of the texts of the shortest decimal number.

A computed number that is no number is always stored with the same bits, so its text reads back
as well.
-/

namespace Microbench.Binary64

variable {datum : Binary64}

theorem plain_finite (finite : datum.isFinite = true) :
    datum.plain = datum.signText ++ (datum.shortest .up).text plainStyle := by
  rw [plain, isNaN_of_isFinite finite, isInfinite_of_isFinite finite]
  rfl

/-- The plain text of a datum that is a number is read as this datum. -/
theorem read?_plain (number : datum.isNaN = false) : read? datum.plain = some datum := by
  by_cases finite : datum.isFinite = true
  · rw [plain_finite finite]
    exact read?_shortest finite .up (Or.inl rfl)
  · have infinite : datum.magnitudeBits = infinityBits := by
      simp only [isFinite, isNaN, decide_eq_true_eq, decide_eq_false_iff_not] at finite number
      omega
    have shape : datum.plain = datum.signText ++ ['i', 'n', 'f'] := by
      simp [plain, number, isInfinite, infinite]
    rw [shape]
    apply read?_signText
    · intro rest
      constructor <;> (intro equal; cases equal)
    · rw [infinite]
      rfl

/-! ## Computed numbers -/

open Float.Model in
/-- Numbers that are no numbers are all stored with the same bits. -/
theorem toBits_of_isNaN {value : Float} (noNumber : (ofFloat value).isNaN = true) :
    value.toBits.toNat = infinityBits + fractions / 2 := by
  have large : infinityBits < value.toBits.toNat % signBit := of_decide_eq_true noNumber
  simp only [infinityBits, signBit] at large
  have exponent : @UnpackedFloat.unpackExponent Format.binary64 value.toBits.toBitVec =
      (-1 : BitVec _) := by
    apply BitVec.eq_of_toNat_eq
    simp [UnpackedFloat.unpackExponent]
    omega
  have mantissa : @UnpackedFloat.unpackMantissa Format.binary64 value.toBits.toBitVec ≠ 0 := by
    intro zero
    have none := congrArg BitVec.toNat zero
    simp [UnpackedFloat.unpackMantissa] at none
    omega
  have canonical : value.toBits.toBitVec = UnpackedFloat.packedNaN Format.binary64 :=
    value.toModel.valid.eq_packedNaN exponent mantissa
  change value.toBits.toBitVec.toNat = _
  rw [canonical]
  decide

/-- The plain text of a computed number is read as the datum that stores this number. -/
theorem read?_plain_ofFloat (value : Float) :
    read? (ofFloat value).plain = some (ofFloat value) := by
  by_cases noNumber : (ofFloat value).isNaN = true
  · have bits : ofFloat value = ofMagnitude false (infinityBits + fractions / 2) := by
      rw [ofFloat, ofMagnitude, if_neg (by decide), ← toBits_of_isNaN noNumber,
        UInt64.ofNat_toNat]
    rw [plain, if_pos noNumber, bits]
    rfl
  · rw [Bool.not_eq_true] at noNumber
    exact read?_plain noNumber

end Microbench.Binary64
