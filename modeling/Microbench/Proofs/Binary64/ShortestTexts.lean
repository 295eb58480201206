import Microbench.Proofs.Binary64.Nearest
import Microbench.Proofs.Binary64.NumberTexts
import Microbench.Proofs.Decimal.Digits

/-!
# Shortest texts read back

The text of the shortest decimal number of a finite datum is read as the very same datum, bit by
bit, whether it has a power of ten or not. The shortest decimal number is found on some grid of
powers of ten; at the latest the finest grid has such a number, because its points are closer to
each other than the ends of any interval. The text denotes exactly this decimal number, perhaps with
zeros behind it, and the datum is nearest to it.
-/

namespace Microbench.Binary64

variable {datum : Binary64}

/-! ## The shortest decimal number -/

theorem Covers.of_mul {numerator denominator factor : Nat} (positive : 0 < factor)
    (covers : datum.Covers (numerator * factor) (denominator * factor)) :
    datum.Covers numerator denominator := by
  rcases covers with ⟨low, high, odd⟩
  have scaled (count : Nat) : count * (denominator * factor) = count * denominator * factor :=
    (Nat.mul_assoc _ _ _).symm
  have sum (left right : Nat) :
      4 * (left * factor) + right * factor = (4 * left + right) * factor := by ring
  have single (left : Nat) : 4 * (left * factor) = 4 * left * factor := by ring
  simp only [scaled, sum] at low high odd
  simp only [single] at low high odd
  refine ⟨?_, ?_, ?_⟩
  · exact Nat.le_of_mul_le_mul_right low positive
  · exact Nat.le_of_mul_le_mul_right high positive
  · intro isOdd
    rcases odd isOdd with ⟨strictLow, strictHigh⟩
    exact ⟨Nat.lt_of_mul_lt_mul_right strictLow, Nat.lt_of_mul_lt_mul_right strictHigh⟩

theorem covers_of_readsBack {level point : Nat} (reads : datum.readsBack level point = true) :
    datum.Covers (point * tenTo level * unitsPerOne) (tenTo finestPlaces) := by
  have place : gridPoint level point = 4 * (point * tenTo level * unitsPerOne) := by
    rw [gridPoint]
    ring
  have low : 4 * (datum.units * tenTo finestPlaces) ≤
      onGridScale (4 * datum.units - datum.gapBelow) + datum.gapBelow * tenTo finestPlaces := by
    rw [onGridScale, ← Nat.add_mul, ← Nat.mul_assoc]
    apply Nat.mul_le_mul_right
    omega
  have high : onGridScale (4 * datum.units + datum.gapAbove) =
      4 * (datum.units * tenTo finestPlaces) + datum.gapAbove * tenTo finestPlaces := by
    rw [onGridScale, Nat.add_mul, Nat.mul_assoc]
  simp only [readsBack, place, high] at reads
  split at reads
  · simp only [Bool.and_eq_true, decide_eq_true_eq] at reads
    refine ⟨?_, ?_, ?_⟩ <;> omega
  · simp only [Bool.and_eq_true, decide_eq_true_eq] at reads
    refine ⟨?_, ?_, ?_⟩ <;> omega

theorem readsBack_of_neighbour? {tie : TieRule} {level point : Nat}
    (found : datum.neighbour? tie level = some point) :
    datum.readsBack level point = true := by
  simp only [neighbour?] at found
  split at found
  · rename_i below _
    cases found
    exact below
  · rename_i _ above
    cases found
    exact above
  · cases found
  · rename_i below above
    split at found
    · cases found
      exact below
    · split at found
      · cases found
        exact above
      · split at found
        · cases found
          exact above
        · cases found
          exact below

/-- The points of the finest grid are closer to each other than the ends of an interval. -/
theorem finest_step_lt : gridPoint 0 1 < 2 * tenTo finestPlaces := by
  decide +kernel

theorem gapBelow_lt_units (nonzero : datum.magnitudeBits ≠ 0) :
    datum.gapBelow < 4 * datum.units := by
  have significand : 1 ≤ datum.significand := by
    by_contra none
    have zero : datum.significand = 0 := by omega
    have least : datum.scale = 0 := by
      by_contra scaled
      have large := le_significand (Nat.pos_of_ne_zero scaled)
      rw [zero] at large
      cases large
    apply nonzero
    rw [magnitudeBits_eq, zero, least, Nat.zero_mul]
  have gap := datum.gapBelow_le
  have product := Nat.mul_le_mul_right (2 ^ datum.scale) significand
  have unit := Nat.two_pow_pos datum.scale
  rw [units_eq]
  omega

theorem readsBack_finest (nonzero : datum.magnitudeBits ≠ 0) :
    datum.readsBack 0 (onGridScale (4 * datum.units) / gridPoint 0 1) = true := by
  have place : gridPoint 0 (onGridScale (4 * datum.units) / gridPoint 0 1) =
      gridPoint 0 1 * (onGridScale (4 * datum.units) / gridPoint 0 1) := by
    generalize onGridScale (4 * datum.units) / gridPoint 0 1 = point
    simp only [gridPoint]
    ring
  have low : onGridScale (4 * datum.units - datum.gapBelow) =
      onGridScale (4 * datum.units) - datum.gapBelow * tenTo finestPlaces :=
    Nat.sub_mul _ _ _
  have high : onGridScale (4 * datum.units + datum.gapAbove) =
      onGridScale (4 * datum.units) + datum.gapAbove * tenTo finestPlaces :=
    Nat.add_mul _ _ _
  have room : datum.gapBelow * tenTo finestPlaces ≤ onGridScale (4 * datum.units) :=
    Nat.mul_le_mul_right _ (gapBelow_lt_units nonzero).le
  have below := Nat.mul_le_mul_right (tenTo finestPlaces) datum.two_le_gapBelow
  have above : 1 * tenTo finestPlaces ≤ datum.gapAbove * tenTo finestPlaces := by
    apply Nat.mul_le_mul_right
    rw [gapAbove_eq]
    exact Nat.mul_pos (by decide) (Nat.two_pow_pos _)
  have step : 0 < gridPoint 0 1 := by decide +kernel
  have near := finest_step_lt
  have division := Nat.div_add_mod (onGridScale (4 * datum.units)) (gridPoint 0 1)
  have remainder := Nat.mod_lt (onGridScale (4 * datum.units)) step
  rw [readsBack, place, low, high]
  generalize onGridScale (4 * datum.units) = value at *
  generalize gridPoint 0 1 * (value / gridPoint 0 1) = product at *
  generalize value % gridPoint 0 1 = rest at *
  split
  · simp only [Bool.and_eq_true, decide_eq_true_eq]
    omega
  · simp only [Bool.and_eq_true, decide_eq_true_eq]
    omega

theorem neighbour?_finest (tie : TieRule) (nonzero : datum.magnitudeBits ≠ 0) :
    ∃ point, datum.neighbour? tie 0 = some point := by
  have below := readsBack_finest nonzero
  simp only [neighbour?, below]
  split
  · exact ⟨_, rfl⟩
  · rename_i impossible _
    cases impossible
  · rename_i impossible _
    cases impossible
  · split
    · exact ⟨_, rfl⟩
    · split
      · exact ⟨_, rfl⟩
      · split <;> exact ⟨_, rfl⟩

theorem coarsest_readsBack (tie : TieRule) (nonzero : datum.magnitudeBits ≠ 0) (level : Nat) :
    ∃ finer point : Nat, datum.coarsest tie level = ⟨point, (finer : Int) - (finestPlaces : Int)⟩ ∧
      datum.readsBack finer point = true := by
  induction level with
  | zero =>
      rcases neighbour?_finest tie nonzero with ⟨point, found⟩
      refine ⟨0, point, ?_, readsBack_of_neighbour? found⟩
      rw [coarsest, found]
      simp
  | succ level ih =>
      rw [coarsest]
      split
      · rename_i point found
        exact ⟨level + 1, point, rfl, readsBack_of_neighbour? found⟩
      · exact ih


/-- The shortest decimal number is on a grid, and not zero. -/
theorem exists_shortest (tie : TieRule) (nonzero : datum.magnitudeBits ≠ 0) :
    ∃ level point : Nat, datum.shortest tie = ⟨point, (level : Int) - (finestPlaces : Int)⟩ ∧
      datum.Covers (point * tenTo level * unitsPerOne) (tenTo finestPlaces) ∧ 0 < point := by
  rcases coarsest_readsBack tie nonzero datum.topLevel with ⟨level, point, equal, reads⟩
  have covers := covers_of_readsBack reads
  refine ⟨level, point, ?_, covers, ?_⟩
  · rw [shortest, if_neg nonzero, equal]
  · apply Nat.pos_of_ne_zero
    rintro rfl
    have low := covers.low
    rw [Nat.zero_mul, Nat.zero_mul, Nat.mul_zero, Nat.zero_add, ← Nat.mul_assoc] at low
    have positive : 0 < tenTo finestPlaces := by decide +kernel
    have close := Nat.le_of_mul_le_mul_right low positive
    have far := gapBelow_lt_units nonzero
    omega

theorem scale_le (finite : datum.isFinite = true) : datum.scale ≤ 2045 := by
  rw [isFinite, decide_eq_true_eq, infinityBits] at finite
  simp only [scale, exponentField, fractions]
  omega

theorem units_add_gapAbove_le {top : Nat} (low : datum.scale ≤ top) :
    4 * datum.units + datum.gapAbove ≤ 4 * (2 * fractions * 2 ^ top) := by
  have powers := Nat.pow_le_pow_right (show 0 < 2 by decide) low
  have significand := datum.significand_lt
  calc 4 * datum.units + datum.gapAbove
      = (4 * datum.significand + 2) * 2 ^ datum.scale := by
        rw [units_eq, gapAbove_eq]
        ring
    _ ≤ 4 * (2 * fractions) * 2 ^ top := Nat.mul_le_mul (by omega) powers
    _ = 4 * (2 * fractions * 2 ^ top) := Nat.mul_assoc _ _ _

/-- Every finite datum is smaller than the first power of ten beyond the limit. -/
theorem greatest_lt : 2 * fractions * 2 ^ 2045 * tenTo finestPlaces <
    tenTo (finestPlaces + exponentLimit + 1) * unitsPerOne := by
  decide +kernel

theorem level_le (finite : datum.isFinite = true) {level point : Nat}
    (covers : datum.Covers (point * tenTo level * unitsPerOne) (tenTo finestPlaces))
    (positive : 0 < point) : level ≤ finestPlaces + exponentLimit := by
  by_contra high
  have large : tenTo (finestPlaces + exponentLimit + 1) * unitsPerOne ≤
      point * tenTo level * unitsPerOne := by
    apply Nat.mul_le_mul_right
    apply le_trans _ (Nat.le_mul_of_pos_left _ positive)
    apply Nat.pow_le_pow_right (by decide)
    omega
  have small := Nat.mul_le_mul_right (tenTo finestPlaces)
    (units_add_gapAbove_le (scale_le finite))
  have bound := covers.high
  have greatest := greatest_lt
  rw [← Nat.mul_assoc 4 datum.units, ← Nat.add_mul] at bound
  rw [Nat.mul_assoc 4] at small
  omega

/-! ## Reading digits -/

theorem readNumber?_whole {digits exponent : List Char} {power : Int} (numeric : IsDigits digits)
    (solid : digits ≠ []) (reads : readExponent? exponent = some power) :
    readNumber? (digits ++ exponent) =
      some (nearestDecimal digits.length (ofDigits digits) power) := by
  have isExponent : IsExponent exponent := isSome_readExponent?.mp (by simp [reads])
  rcases numeric.span_append isExponent.head_notDigit with ⟨taken, left⟩
  rw [readNumber?, taken, left]
  split
  rename_i shape
  split at shape
  · exact absurd rfl (isExponent.ne_point _)
  · cases shape
    simp [solid, reads]

theorem readNumber?_point {whole fraction exponent : List Char} {power : Int}
    (wholeNumeric : IsDigits whole) (numeric : IsDigits fraction) (solid : fraction ≠ [])
    (reads : readExponent? exponent = some power) :
    readNumber? (whole ++ '.' :: (fraction ++ exponent)) =
      some (nearestDecimal (whole ++ fraction).length (ofDigits (whole ++ fraction))
        (power - fraction.length)) := by
  have isExponent : IsExponent exponent := isSome_readExponent?.mp (by simp [reads])
  have point : ∀ char ∈ ('.' :: (fraction ++ exponent)).head?, char.isDigit = false := by
    rintro char ⟨⟩
    rfl
  rcases wholeNumeric.span_append point with ⟨wholeTaken, wholeLeft⟩
  rcases numeric.span_append isExponent.head_notDigit with ⟨taken, left⟩
  simp [readNumber?, wholeTaken, wholeLeft, taken, left, solid, reads]

theorem isDigits_digits (number : Nat) : IsDigits (Decimal.digits number) :=
  fun _ member => Decimal.isDigit_of_mem_digits member

theorem isDigits_replicate (count : Nat) : IsDigits (List.replicate count '0') := by
  intro char member
  rw [List.eq_of_mem_replicate member]
  rfl

theorem isDigits_of_hasPlaces {decimal : Decimal} {padding : Nat} {whole places : List Char}
    (hasPlaces : decimal.HasPlaces padding whole places) : IsDigits whole ∧ IsDigits places := by
  apply isDigits_append.mp
  rw [← hasPlaces.digits]
  exact isDigits_append.mpr ⟨isDigits_replicate padding, isDigits_digits decimal.coefficient⟩

theorem readExponent?_written (exponent : Int) :
    readExponent? ('e' :: (if exponent < 0 then '-' else '+') :: Decimal.digits exponent.natAbs) =
      some exponent := by
  have value := ofDigits_append_digits 0 exponent.natAbs
  have solid : (Decimal.digits exponent.natAbs).isEmpty = false := by
    simpa using Decimal.digits_ne_nil exponent.natAbs
  have numeric : (Decimal.digits exponent.natAbs).all Char.isDigit = true := by
    rw [List.all_eq_true]
    exact isDigits_digits _
  rw [List.replicate_zero, List.nil_append] at value
  by_cases negative : exponent < 0
  · simp [readExponent?, negative, solid, numeric, value, abs_of_neg negative]
  · simp [readExponent?, negative, solid, numeric, value, Int.not_lt.mp negative]

/-- Digits, the last of which has a power of ten, denote a decimal number. Zeros may stand behind
its own digits, up to the first place behind the point. -/
def Denotes (decimal : Decimal) (digits : List Char) (power : Int) : Prop :=
  ∃ zeros : Nat, (zeros : Int) ≤ max 0 (decimal.exponent + 1) ∧
    ofDigits digits = decimal.coefficient * tenTo zeros ∧ power = decimal.exponent - zeros

/-- A text is read as digits that denote a decimal number. -/
def ReadsAs (decimal : Decimal) (text : List Char) : Prop :=
  ∃ digits power, Denotes decimal digits power ∧
    readNumber? text = some (nearestDecimal digits.length (ofDigits digits) power)

section Decimal

variable {decimal : Decimal}

theorem denotes_padded (padding : Nat) :
    Denotes decimal (List.replicate padding '0' ++ Decimal.digits decimal.coefficient)
      decimal.exponent := by
  refine ⟨0, by simp, ?_, by simp⟩
  rw [ofDigits_append_digits]
  exact (Nat.mul_one _).symm

theorem denotes_zeros {zeros : Nat} (few : (zeros : Int) ≤ decimal.exponent + 1) :
    Denotes decimal (Decimal.digits decimal.coefficient ++ List.replicate zeros '0')
      (decimal.exponent - zeros) :=
  ⟨zeros, le_max_of_le_right few, ofDigits_digits_append _ _, rfl⟩

theorem readsAs_whole {wholeEnd : List Char} (ends : wholeEnd = [] ∨ wholeEnd = ['.', '0'])
    (isWhole : 0 ≤ decimal.exponent) : ReadsAs decimal (decimal.positional wholeEnd) := by
  have none : readExponent? [] = some 0 := rfl
  have numeric : IsDigits (Decimal.digits decimal.coefficient ++
      List.replicate decimal.exponent.toNat '0') :=
    isDigits_append.mpr ⟨isDigits_digits _, isDigits_replicate _⟩
  rw [Decimal.positional, if_pos isWhole]
  rcases ends with rfl | rfl
  · have solid : Decimal.digits decimal.coefficient ++
        List.replicate decimal.exponent.toNat '0' ≠ [] := by
      simp [Decimal.digits_ne_nil]
    have few : (decimal.exponent.toNat : Int) ≤ decimal.exponent + 1 := by omega
    have denotes := denotes_zeros few
    rw [Int.toNat_of_nonneg isWhole, Int.sub_self] at denotes
    exact ⟨_, _, denotes, readNumber?_whole numeric solid none⟩
  · have few : (decimal.exponent.toNat + 1 : Nat) ≤ decimal.exponent + 1 := by omega
    have power : decimal.exponent - (decimal.exponent.toNat + 1 : Nat) = 0 - (1 : Nat) := by omega
    have denotes := denotes_zeros few
    rw [List.replicate_succ', ← List.append_assoc, power] at denotes
    exact ⟨_, _, denotes, readNumber?_point numeric (isDigits_replicate 1) (by simp) none⟩

theorem readsAs_places {wholeEnd : List Char} (negative : decimal.exponent < 0) :
    ReadsAs decimal (decimal.positional wholeEnd) := by
  rcases Decimal.exists_hasPlaces negative with ⟨padding, whole, places, hasPlaces⟩
  have none : readExponent? [] = some 0 := rfl
  have denotes : Denotes decimal _ _ := denotes_padded padding
  have power : (0 : Int) - places.length = decimal.exponent := by
    rw [hasPlaces.count]
    omega
  rcases isDigits_of_hasPlaces hasPlaces with ⟨wholeNumeric, placesNumeric⟩
  have read := readNumber?_point wholeNumeric placesNumeric hasPlaces.places_ne_nil none
  rw [List.append_nil, power] at read
  rw [hasPlaces.digits] at denotes
  rw [hasPlaces.written]
  exact ⟨_, _, denotes, read⟩

theorem readsAs_scientific (decimal : Decimal) : ReadsAs decimal decimal.scientific := by
  rcases decimal.exists_mantissa with ⟨digit, rest, digits, written⟩
  have reads := readExponent?_written decimal.leadingExponent
  have denotes : Denotes decimal _ _ := denotes_padded 0
  have numeric := isDigits_digits decimal.coefficient
  have power : decimal.leadingExponent - rest.length = decimal.exponent := by
    simp [Decimal.leadingExponent, digits]
  rw [List.replicate_zero, List.nil_append, digits, ← power] at denotes
  rw [digits] at numeric
  rw [written]
  by_cases single : rest = []
  · subst single
    rw [if_pos rfl, List.nil_append]
    rw [List.length_nil, Nat.cast_zero, Int.sub_zero] at denotes
    exact ⟨_, _, denotes, readNumber?_whole numeric (List.cons_ne_nil _ _) reads⟩
  · rcases List.forall_mem_cons.mp numeric with ⟨isDigit, restNumeric⟩
    have wholeNumeric : IsDigits [digit] := List.forall_mem_singleton.mpr isDigit
    rw [if_neg single]
    exact ⟨_, _, denotes, readNumber?_point wholeNumeric restNumeric single reads⟩

/-- Whole numbers are written without a point, or with one zero behind it. -/
def EndsWhole (style : NumberStyle) : Prop := style.wholeEnd = [] ∨ style.wholeEnd = ['.', '0']

theorem readsAs_text {style : NumberStyle} (ends : EndsWhole style) :
    ReadsAs decimal (decimal.text style) := by
  rw [Decimal.text]
  split
  · rcases Int.lt_or_le decimal.exponent 0 with negative | isWhole
    · exact readsAs_places negative
    · exact readsAs_whole ends isWhole
  · exact readsAs_scientific decimal

theorem exists_head {digits : List Char} (numeric : IsDigits digits) (solid : digits ≠ [])
    (rest : List Char) : ∃ digit later, digits ++ rest = digit :: later ∧ digit.isDigit = true := by
  cases digits with
  | nil => exact absurd rfl solid
  | cons digit digits => exact ⟨digit, _, rfl, numeric digit List.mem_cons_self⟩

/-- The text of a decimal number begins with a digit. -/
theorem exists_head_text (style : NumberStyle) (decimal : Decimal) :
    ∃ digit later, decimal.text style = digit :: later ∧ digit.isDigit = true := by
  have numeric := isDigits_digits decimal.coefficient
  have solid := Decimal.digits_ne_nil decimal.coefficient
  rw [Decimal.text]
  split
  · rcases Int.lt_or_le decimal.exponent 0 with negative | isWhole
    · rcases Decimal.exists_hasPlaces negative with ⟨padding, whole, places, hasPlaces⟩
      rw [hasPlaces.written]
      exact exists_head (isDigits_of_hasPlaces hasPlaces).1 hasPlaces.whole_ne_nil _
    · rw [Decimal.positional, if_pos isWhole, List.append_assoc]
      exact exists_head numeric solid _
  · rcases decimal.exists_mantissa with ⟨digit, rest, digits, written⟩
    rw [digits] at numeric
    exact ⟨digit, _, written, numeric digit List.mem_cons_self⟩

theorem readMagnitude?_text (style : NumberStyle) (decimal : Decimal) :
    readMagnitude? (decimal.text style) = readNumber? (decimal.text style) := by
  rcases exists_head_text style decimal with ⟨digit, rest, shape, isDigit⟩
  have noLetter : ∀ letter ∈ ['i', 'n'], digit.toLower ≠ letter := by
    intro letter member equal
    have upper : digit.toLower = digit := by
      apply dif_neg
      simp only [Char.isDigit, Bool.and_eq_true, decide_eq_true_eq] at isDigit
      rintro ⟨low, -⟩
      exact absurd (UInt32.le_trans low isDigit.2) (by decide)
    rw [upper] at equal
    simp only [List.mem_cons, List.not_mem_nil, or_false] at member
    rcases member with rfl | rfl <;> (rw [equal] at isDigit; cases isDigit)
  have noI := noLetter 'i' (by simp)
  have noN := noLetter 'n' (by simp)
  rw [shape]
  simp [readMagnitude?, noI, noN]

end Decimal

/-! ## The round trip -/

theorem tenTo_add (first second : Nat) : tenTo (first + second) = tenTo first * tenTo second :=
  Nat.pow_add 10 first second

theorem tenTo_pos (exponent : Nat) : 0 < tenTo exponent :=
  Nat.pow_pos (by decide)

/-- A quotient of the same value as a point of a grid in the interval of a datum. -/
theorem nearest_of_covers (finite : datum.isFinite = true) {level point : Nat}
    (covers : datum.Covers (point * tenTo level * unitsPerOne) (tenTo finestPlaces))
    {numerator denominator : Nat} (factor : Nat)
    (numerators : numerator * factor = point * tenTo level)
    (denominators : denominator * factor = tenTo finestPlaces) :
    nearest numerator denominator = datum.magnitudeBits := by
  have product : 0 < denominator * factor := by
    rw [denominators]
    exact tenTo_pos finestPlaces
  apply nearest_eq finite (Nat.pos_of_mul_pos_right product)
  apply Covers.of_mul (Nat.pos_of_mul_pos_left product)
  rw [Nat.mul_right_comm, numerators, denominators]
  exact covers

/-- Digits that denote the shortest decimal number denote the datum. -/
theorem nearestDecimal_shortest (finite : datum.isFinite = true) {tie : TieRule} (count : Nat)
    {digits : List Char} {power : Int} (denotes : Denotes (datum.shortest tie) digits power) :
    nearestDecimal count (ofDigits digits) power = datum.magnitudeBits := by
  rcases denotes with ⟨zeros, few, value, rfl⟩
  rw [value]
  by_cases zero : datum.magnitudeBits = 0
  · have isZero : datum.shortest tie = ⟨0, 0⟩ := if_pos zero
    simp [isZero, zero, nearestDecimal]
  · rcases exists_shortest tie zero with ⟨level, point, equal, covers, positive⟩
    have notHigh := level_le finite covers positive
    rw [equal] at few ⊢
    dsimp only at few ⊢
    have inside : zeros ≤ level := by
      simp only [finestPlaces] at few
      omega
    have coefficient : point * tenTo zeros ≠ 0 := (Nat.mul_pos positive (tenTo_pos zeros)).ne'
    have notLow : ¬((level : Int) - finestPlaces - zeros < -(count + exponentLimit : Nat)) := by
      simp only [finestPlaces, exponentLimit]
      omega
    have notLarge : ¬((exponentLimit : Int) < level - finestPlaces - zeros) := by omega
    rw [nearestDecimal, if_neg coefficient, if_neg notLow, if_neg notLarge]
    split
    · apply nearest_of_covers finite covers (tenTo finestPlaces)
      · rw [Nat.mul_assoc, Nat.mul_assoc, ← tenTo_add, ← tenTo_add]
        congr 2
        omega
      · exact Nat.one_mul _
    · apply nearest_of_covers finite covers (tenTo (level - zeros))
      · rw [Nat.mul_assoc, ← tenTo_add, Nat.add_sub_of_le inside]
      · rw [← tenTo_add]
        congr 1
        omega

theorem ofMagnitude_magnitudeBits (datum : Binary64) :
    ofMagnitude datum.isNegative datum.magnitudeBits = datum := by
  have bits := datum.bits_toNat
  have value : (if datum.isNegative = true then datum.magnitudeBits + signBit
      else datum.magnitudeBits) = datum.bits.toNat := by
    rw [bits]
    split <;> omega
  rw [ofMagnitude, value, UInt64.ofNat_toNat]

/-- A sign in front of an unsigned text is the sign of the datum. -/
theorem read?_signText (datum : Binary64) {text : List Char}
    (unsigned : ∀ rest, text ≠ '-' :: rest ∧ text ≠ '+' :: rest)
    (magnitude : readMagnitude? text = some datum.magnitudeBits) :
    read? (datum.signText ++ text) = some datum := by
  rw [signText]
  split
  · rename_i negative
    rw [List.cons_append, List.nil_append, read?, magnitude, Option.map_some, ← negative,
      ofMagnitude_magnitudeBits]
  · rename_i positive
    rw [Bool.not_eq_true] at positive
    have plain : read? text = (readMagnitude? text).map (ofMagnitude false) := by
      unfold read?
      split
      · exact absurd rfl (unsigned _).1
      · exact absurd rfl (unsigned _).2
      · rfl
    rw [List.nil_append, plain, magnitude, Option.map_some, ← positive,
      ofMagnitude_magnitudeBits]

/-- The text of the shortest decimal number is read as the datum. -/
theorem read?_shortest (finite : datum.isFinite = true) (tie : TieRule) {style : NumberStyle}
    (ends : EndsWhole style) :
    read? (datum.signText ++ (datum.shortest tie).text style) = some datum := by
  apply read?_signText
  · intro rest
    rcases exists_head_text style (datum.shortest tie) with ⟨digit, later, shape, isDigit⟩
    rw [shape]
    constructor <;> (intro equal; cases equal; cases isDigit)
  · rcases readsAs_text ends with ⟨digits, power, denotes, read⟩
    rw [readMagnitude?_text, read, nearestDecimal_shortest finite _ denotes]

end Microbench.Binary64
