import Microbench.Json.Record
import Microbench.Proofs.Binary64.ShortestTexts
import Microbench.Proofs.Json.RoundTrip

/-!
# Parts of JSON trees

Records are made of texts, numbers and lists, and each of these is read as what was written. Natural
numbers are written as their digits, and finite data by their shortest decimal number; both are
numbers of the grammar, and data are read bit by bit.

A number of the grammar has no zeros in front. So the digits before the point must not begin with a
zero unless there is only this one, which is why it matters that the shortest decimal number is zero
for a zero only.
-/

namespace Microbench

namespace Json

open Binary64 (IsDigits IsExponent isDigits_digits isDigits_replicate isDigits_append)

theorem text?_string (text : String) : text? ((Json.string text).map some) = some text := rfl

theorem list?_map {α β : Type} {item? : Tree → Option β} {write : α → Json String} {read : α → β}
    (reads : ∀ item, item? ((write item).map some) = some (read item)) (items : List α) :
    list? item? ((Json.array (items.map write)).map some) = some (items.map read) := by
  rw [Json.map, list?]
  induction items with
  | nil => rfl
  | cons item items ih => simp [mapItems, reads, ih]

/-! ## Natural numbers -/

/-- Zeros may stand behind the digits of a number, but not behind a zero. -/
theorem isWhole_zeros {number zeros : Nat} (zero : number = 0 → zeros = 0) :
    IsWhole (Decimal.digits number ++ List.replicate zeros '0') := by
  rcases Nat.eq_zero_or_pos number with none | positive
  · rw [zero none, none]
    exact .zero
  · have numeric := isDigits_digits number
    have leading := Decimal.head_digits_ne_zero positive
    cases shape : Decimal.digits number with
    | nil => exact absurd shape (Decimal.digits_ne_nil number)
    | cons digit rest =>
        rw [shape] at numeric leading
        rcases List.forall_mem_cons.mp numeric with ⟨isDigit, restNumeric⟩
        apply IsWhole.leading isDigit
        · rintro rfl
          exact leading rfl
        · exact isDigits_append.mpr ⟨restNumeric, isDigits_replicate zeros⟩

theorem isWhole_digits (number : Nat) : IsWhole (Decimal.digits number) := by
  have isWhole : IsWhole (Decimal.digits number ++ List.replicate 0 '0') :=
    isWhole_zeros fun _ => rfl
  simpa using isWhole

/-- The first digits of a whole part are one as well. -/
theorem IsWhole.of_prefix {text whole : List Char} (isWhole : IsWhole text) (first : whole <+: text)
    (solid : whole ≠ []) : IsWhole whole := by
  cases whole with
  | nil => exact absurd rfl solid
  | cons digit whole =>
      cases isWhole with
      | zero =>
          rw [List.cons_prefix_cons, List.prefix_nil] at first
          rw [first.1, first.2]
          exact .zero
      | leading isDigit nonzero numeric =>
          rw [List.cons_prefix_cons] at first
          rw [first.1]
          exact .leading isDigit nonzero fun char member => numeric char (first.2.subset member)

theorem isNumber_digits (number : Nat) : IsNumber (Decimal.digits number) := by
  have isUnsigned := IsUnsigned.mk (isWhole_digits number) .none .none
  rw [List.append_nil, List.append_nil] at isUnsigned
  exact .plain isUnsigned

theorem isLexeme_digits (number : Nat) : IsLexeme (Decimal.digits number) :=
  isLexeme_iff.mpr (isNumber_digits number)

theorem natBelow?_ofNat {number bound : Nat} (below : number < bound) :
    natBelow? bound (.number (Decimal.digits number)) = some number := by
  simp [natBelow?, Numeral.readDigits?_digits, below]

theorem uint32?_ofNat (number : UInt32) :
    uint32? (.number (Decimal.digits number.toNat)) = some number := by
  simp [uint32?, natBelow?_ofNat number.toNat_lt]

theorem uint64?_ofNat (number : UInt64) :
    uint64? (.number (Decimal.digits number.toNat)) = some number := by
  simp [uint64?, natBelow?_ofNat number.toNat_lt]

/-! ## Data -/

theorem isExponent_written (exponent : Int) :
    IsExponent ('e' :: (if exponent < 0 then '-' else '+') :: Decimal.digits exponent.natAbs) :=
  Binary64.isSome_readExponent?.mp (by simp [Binary64.readExponent?_written])

theorem isPlaces_ite {digits : List Char} (numeric : IsDigits digits) :
    IsPlaces (if digits = [] then [] else '.' :: digits) := by
  split
  · exact .none
  · rename_i solid
    exact .some numeric solid

section Text

variable {decimal : Decimal} {style : NumberStyle} (ends : Binary64.EndsWhole style)
  (zero : decimal.coefficient = 0 → decimal.exponent = 0)

theorem isUnsigned_scientific (decimal : Decimal) : IsUnsigned decimal.scientific := by
  rcases decimal.exists_mantissa with ⟨digit, rest, digits, written⟩
  have isWhole := isWhole_digits decimal.coefficient
  rw [digits] at isWhole
  have first : IsWhole [digit] := isWhole.of_prefix (by simp) (by simp)
  have numeric := (List.forall_mem_cons.mp isWhole.isDigits).2
  rw [written]
  exact .mk first (isPlaces_ite numeric) (isExponent_written _)

theorem isUnsigned_places {wholeEnd : List Char} (negative : decimal.exponent < 0) :
    IsUnsigned (decimal.positional wholeEnd) := by
  rcases Decimal.exists_hasPlaces negative with ⟨padding, whole, places, hasPlaces⟩
  have isWhole : IsWhole whole := by
    rcases hasPlaces.least with none | zero
    · have digits := hasPlaces.digits
      rw [none, List.replicate_zero, List.nil_append] at digits
      have isWhole := isWhole_digits decimal.coefficient
      rw [digits] at isWhole
      exact isWhole.of_prefix (List.prefix_append _ _) hasPlaces.whole_ne_nil
    · rw [zero]
      exact .zero
  have numeric := (Binary64.isDigits_of_hasPlaces hasPlaces).2
  have isPlaces : IsPlaces ('.' :: places) := .some numeric hasPlaces.places_ne_nil
  rw [hasPlaces.written]
  simpa using IsUnsigned.mk isWhole isPlaces .none

include ends zero

theorem isUnsigned_whole (isWhole : 0 ≤ decimal.exponent) :
    IsUnsigned (decimal.positional style.wholeEnd) := by
  have few : decimal.coefficient = 0 → decimal.exponent.toNat = 0 := by
    intro none
    rw [zero none]
    rfl
  have isPlaces : IsPlaces style.wholeEnd := by
    rcases ends with none | point
    · rw [none]
      exact .none
    · rw [point]
      exact .some (isDigits_replicate 1) (by simp)
  rw [Decimal.positional, if_pos isWhole]
  simpa using IsUnsigned.mk (isWhole_zeros few) isPlaces .none

theorem isUnsigned_text : IsUnsigned (decimal.text style) := by
  rw [Decimal.text]
  split
  · rcases Int.lt_or_le decimal.exponent 0 with negative | isWhole
    · exact isUnsigned_places negative
    · exact isUnsigned_whole ends zero isWhole
  · exact isUnsigned_scientific decimal

end Text

theorem isNumber_numberText (datum : Binary64) : IsNumber (numberText datum) := by
  have zero : (datum.shortest .even).coefficient = 0 → (datum.shortest .even).exponent = 0 := by
    by_cases isZero : datum.magnitudeBits = 0
    · intro _
      rw [Binary64.shortest, if_pos isZero]
    · rcases Binary64.exists_shortest .even isZero with ⟨level, point, equal, -, positive⟩
      intro none
      rw [equal] at none
      exact absurd none positive.ne'
  have isUnsigned : IsUnsigned ((datum.shortest .even).text numberStyle) :=
    isUnsigned_text (Or.inr rfl) zero
  rw [numberText, Binary64.signText]
  split
  · exact .minus isUnsigned
  · exact .plain isUnsigned

/-- The text of a finite number is read as this number. -/
theorem read?_numberText {datum : Binary64} (finite : datum.isFinite = true) :
    Binary64.read? (numberText datum) = some datum :=
  Binary64.read?_shortest finite .even (Or.inr rfl)

end Json

end Microbench
