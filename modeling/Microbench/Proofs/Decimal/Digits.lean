import Microbench.Binary64.Reading
import Microbench.Decimal.Basic
import Microbench.Text.Numeral
import Mathlib.Algebra.Ring.Nat

/-!
# Digits of natural numbers

The digits of a number denote it again, in a numeral as well as in the text of a number with a
point; and only zero begins with the digit zero. The text of a decimal number has these digits in
it, with zeros before them or behind them where a place has to be filled in.
-/

namespace Microbench

namespace Decimal

theorem digits_ne_nil (number : Nat) : digits number ≠ [] :=
  Nat.toDigits_ne_nil

theorem toList_toString (number : Nat) : (toString number).toList = digits number :=
  String.toList_ofList

theorem isDigit_of_mem_digits {number : Nat} {char : Char} (member : char ∈ digits number) :
    char.isDigit = true :=
  Nat.isDigit_of_mem_toDigits (by decide) (by decide) member

theorem head_digits_ne_zero {number : Nat} (positive : 0 < number) :
    (digits number).head? ≠ some '0' := by
  induction number using Nat.strongRecOn with
  | ind number ih =>
      by_cases small : number < 10
      · rw [digits, Nat.toDigits_of_lt_base small]
        intro zero
        have values := congrArg (Option.map fun char => char.toNat - 48) zero
        simp only [List.head?_cons, Option.map_some,
          Nat.toNat_digitChar_sub_48_of_lt_ten small] at values
        simp only [Char.reduceToNat, Option.some.injEq] at values
        omega
      · have large : 10 ≤ number := by omega
        rw [digits, Nat.toDigits_of_base_le (by decide) large]
        have leading := ih (number / 10) (by omega) (by omega)
        rw [digits] at leading
        cases split : Nat.toDigits 10 (number / 10) with
        | nil => exact absurd split Nat.toDigits_ne_nil
        | cons first rest => simpa [split] using leading

/-! ## Texts of decimal numbers -/

/-- A decimal number with places is written with a point before them. Zeros are filled in before its
digits if these are too few, and then the whole part is one zero. -/
structure HasPlaces (decimal : Decimal) (padding : Nat) (whole places : List Char) : Prop where
  digits : List.replicate padding '0' ++ digits decimal.coefficient = whole ++ places
  least : padding = 0 ∨ whole = ['0']
  whole_ne_nil : whole ≠ []
  places_ne_nil : places ≠ []
  count : places.length = (-decimal.exponent).toNat
  written : ∀ wholeEnd, decimal.positional wholeEnd = whole ++ '.' :: places

theorem exists_hasPlaces {decimal : Decimal} (negative : decimal.exponent < 0) :
    ∃ padding whole places, HasPlaces decimal padding whole places := by
  have solid := List.length_pos_iff.mpr (digits_ne_nil decimal.coefficient)
  generalize paddingEq :
    (-decimal.exponent).toNat + 1 - (digits decimal.coefficient).length = padding
  generalize paddedEq : List.replicate padding '0' ++ digits decimal.coefficient = padded
  have size : padded.length = padding + (digits decimal.coefficient).length := by
    rw [← paddedEq, List.length_append, List.length_replicate]
  have few : 0 < padded.length - (-decimal.exponent).toNat := by omega
  refine ⟨padding, padded.take (padded.length - (-decimal.exponent).toNat),
    padded.drop (padded.length - (-decimal.exponent).toNat), ?_⟩
  constructor
  case digits => rw [paddedEq, List.take_append_drop]
  case least =>
    rcases Nat.eq_zero_or_pos padding with none | positive
    · exact Or.inl none
    · right
      have one : padded.length - (-decimal.exponent).toNat = 1 := by omega
      obtain ⟨more, rfl⟩ := Nat.exists_eq_add_one.mpr positive
      rw [one, ← paddedEq, List.replicate_succ, List.cons_append, List.take_succ_cons,
        List.take_zero]
  case whole_ne_nil =>
    rw [← List.length_pos_iff, List.length_take]
    omega
  case places_ne_nil =>
    rw [← List.length_pos_iff, List.length_drop]
    omega
  case count =>
    rw [List.length_drop]
    omega
  case written =>
    intro wholeEnd
    rw [positional, if_neg (by omega)]
    dsimp only
    rw [paddingEq, paddedEq]

/-- The digits with the point after the first one, if there are more. -/
theorem exists_mantissa (decimal : Decimal) :
    ∃ digit rest, digits decimal.coefficient = digit :: rest ∧
      decimal.scientific = digit :: ((if rest = [] then [] else '.' :: rest) ++
        'e' :: (if decimal.leadingExponent < 0 then '-' else '+') ::
          digits decimal.leadingExponent.natAbs) := by
  rw [scientific]
  cases shape : digits decimal.coefficient with
  | nil => exact absurd shape (digits_ne_nil _)
  | cons digit rest =>
      refine ⟨digit, rest, rfl, ?_⟩
      cases rest <;> simp

end Decimal

namespace Binary64

theorem ofDigits_append_digits (padding : Nat) (number : Nat) :
    ofDigits (List.replicate padding '0' ++ Decimal.digits number) = number := by
  have fold (chars : List Char) : ofDigits chars = Nat.ofDigitChars 10 chars 0 := rfl
  rw [fold, Nat.ofDigitChars_append, Nat.ofDigitChars_replicate_zero, Nat.mul_zero,
    Decimal.digits, Nat.ofDigitChars_ten_toDigits]

theorem ofDigits_digits_append (number zeros : Nat) :
    ofDigits (Decimal.digits number ++ List.replicate zeros '0') = number * 10 ^ zeros := by
  have fold (chars : List Char) : ofDigits chars = Nat.ofDigitChars 10 chars 0 := rfl
  rw [fold, Nat.ofDigitChars_append, Decimal.digits, Nat.ofDigitChars_ten_toDigits,
    Nat.ofDigitChars_replicate_zero, Nat.mul_comm]

end Binary64

namespace Numeral

theorem readDigits?_digits (number : Nat) :
    readDigits? (Decimal.digits number) = some number := by
  have solid : (Decimal.digits number).isEmpty = false := by
    simpa using Decimal.digits_ne_nil number
  have numeric : (Decimal.digits number).all Char.isDigit = true := by
    rw [List.all_eq_true]
    intro char member
    exact Decimal.isDigit_of_mem_digits member
  have value : (Decimal.digits number).foldl
      (fun value digit => 10 * value + (digit.toNat - '0'.toNat)) 0 = number :=
    Nat.ofDigitChars_ten_toDigits
  rw [readDigits?, value, solid, numeric]
  rfl

theorem readBelow?_digits {number bound : Nat} (below : number < bound) :
    readBelow? bound (Decimal.digits number) = some number := by
  have unsigned : ∀ rest, Decimal.digits number ≠ '+' :: rest := by
    intro rest equal
    have plus : '+' ∈ Decimal.digits number := by simp [equal]
    cases Decimal.isDigit_of_mem_digits plus
  unfold readBelow?
  split
  · rename_i equal
    exact absurd equal (unsigned _)
  · simp [readDigits?_digits, below]

theorem readUInt64?_digits (number : UInt64) :
    readUInt64? (Decimal.digits number.toNat) = some number := by
  simp [readUInt64?, readBelow?_digits number.toNat_lt]

end Numeral

end Microbench
