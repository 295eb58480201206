import Microbench.Text.Blank
import Microbench.Text.Numeral

/-!
# What numerals denote

Digits denote a number by their places; a plus sign changes nothing, and a minus sign is for
integers only. A text is read exactly if it denotes a number in the range, and as this number.
-/

namespace Microbench

namespace Text

theorem isWhiteSpace_of_isDigit {char : Char} (digit : char.isDigit = true) :
    isWhiteSpace char = false := by
  simp only [Char.isDigit, Bool.and_eq_true, decide_eq_true_eq] at digit
  have low : 48 ≤ char.toNat := digit.1
  have high : char.toNat ≤ 57 := digit.2
  simp only [isWhiteSpace, whiteSpaceRanges, List.any_cons, List.any_nil, Bool.or_false,
    Bool.or_eq_false_iff, Bool.and_eq_false_iff, decide_eq_false_iff_not]
  omega

end Text

namespace Numeral

/-- Decimal digits, one at least, and the number that they denote. -/
structure IsDigits (digits : List Char) (number : Nat) : Prop where
  solid : digits ≠ []
  numeric : ∀ digit ∈ digits, digit.isDigit = true
  value : Nat.ofDigitChars 10 digits 0 = number

/-- A numeral for a natural number. -/
inductive DenotesNat : List Char → Nat → Prop where
  | plain {digits : List Char} {number : Nat} (isDigits : IsDigits digits number) :
    DenotesNat digits number
  | plus {digits : List Char} {number : Nat} (isDigits : IsDigits digits number) :
    DenotesNat ('+' :: digits) number

/-- A numeral for an integer. -/
inductive DenotesInt : List Char → Int → Prop where
  | natural {text : List Char} {number : Nat} (denotes : DenotesNat text number) :
    DenotesInt text number
  | minus {digits : List Char} {number : Nat} (isDigits : IsDigits digits number) :
    DenotesInt ('-' :: digits) (-number)

theorem not_isDigits_sign {sign : Char} (notDigit : sign.isDigit = false) {digits : List Char}
    {number : Nat} : ¬ IsDigits (sign :: digits) number := by
  intro isDigits
  have digit := isDigits.numeric sign List.mem_cons_self
  rw [notDigit] at digit
  cases digit

theorem readDigits?_eq_some_iff {digits : List Char} {number : Nat} :
    readDigits? digits = some number ↔ IsDigits digits number := by
  rw [readDigits?]
  split
  · rename_i noNumeral
    rw [Bool.or_eq_true, List.isEmpty_iff, Bool.not_eq_true', ← Bool.not_eq_true,
      List.all_eq_true] at noNumeral
    constructor
    · intro found
      cases found
    · intro isDigits
      rcases noNumeral with empty | strange
      · exact absurd empty isDigits.solid
      · exact absurd isDigits.numeric strange
  · rename_i numeral
    rw [Bool.or_eq_true, List.isEmpty_iff, Bool.not_eq_true', ← Bool.not_eq_true,
      List.all_eq_true, not_or, Classical.not_not] at numeral
    change some (Nat.ofDigitChars 10 digits 0) = some number ↔ _
    rw [Option.some.injEq]
    constructor
    · intro value
      exact ⟨numeral.1, numeral.2, value⟩
    · exact IsDigits.value

theorem readBelow?_eq_some_iff {bound : Nat} {text : List Char} {number : Nat} :
    readBelow? bound text = some number ↔ DenotesNat text number ∧ number < bound := by
  unfold readBelow?
  rw [Option.filter_eq_some_iff, decide_eq_true_eq]
  apply and_congr_left
  intro _
  split
  · rw [readDigits?_eq_some_iff]
    constructor
    · exact .plus
    · intro denotes
      cases denotes with
      | plain isDigits => exact absurd isDigits (not_isDigits_sign rfl)
      | plus isDigits => exact isDigits
  · rename_i unsigned
    rw [readDigits?_eq_some_iff]
    constructor
    · exact .plain
    · intro denotes
      cases denotes with
      | plain isDigits => exact isDigits
      | plus isDigits => exact absurd rfl (unsigned _)

theorem readWithin?_eq_some_iff {bound : Nat} (positive : 0 < bound) {text : List Char}
    {number : Int} :
    readWithin? bound text = some number ↔
      DenotesInt text number ∧ -(bound : Int) ≤ number ∧ number < bound := by
  unfold readWithin?
  split
  · rename_i digits
    rw [Option.bind_eq_some_iff]
    constructor
    · rintro ⟨magnitude, read, small⟩
      split at small
      · cases small
        exact ⟨.minus (readDigits?_eq_some_iff.mp read), by omega, by omega⟩
      · cases small
    · rintro ⟨denotes, least, -⟩
      cases denotes with
      | natural denotes =>
          cases denotes with
          | plain isDigits => exact absurd isDigits (not_isDigits_sign rfl)
      | minus isDigits =>
          exact ⟨_, readDigits?_eq_some_iff.mpr isDigits, if_pos (by omega)⟩
  · rename_i unsigned
    rw [Option.map_eq_some_iff]
    constructor
    · rintro ⟨magnitude, read, rfl⟩
      rcases readBelow?_eq_some_iff.mp read with ⟨denotes, below⟩
      rw [Int.ofNat_eq_natCast]
      exact ⟨.natural denotes, by omega, by omega⟩
    · rintro ⟨denotes, -, below⟩
      cases denotes with
      | natural denotes => exact ⟨_, readBelow?_eq_some_iff.mpr ⟨denotes, by omega⟩, rfl⟩
      | minus isDigits => exact absurd rfl (unsigned _)

theorem DenotesNat.isBlank_eq_false {text : List Char} {number : Nat}
    (denotes : DenotesNat text number) : Text.isBlank text = false := by
  have inside {digits : List Char} (isDigits : IsDigits digits number) :
      ∃ digit ∈ digits, Text.isWhiteSpace digit = false := by
    rcases List.exists_mem_of_ne_nil digits isDigits.solid with ⟨digit, member⟩
    exact ⟨digit, member, Text.isWhiteSpace_of_isDigit (isDigits.numeric digit member)⟩
  rw [Text.isBlank, List.all_eq_false]
  simp only [Bool.not_eq_true]
  cases denotes with
  | plain isDigits => exact inside isDigits
  | plus isDigits =>
      rcases inside isDigits with ⟨digit, member, solid⟩
      exact ⟨digit, List.mem_cons_of_mem _ member, solid⟩

end Numeral

end Microbench
