import Microbench.Binary64.Fixed
import Microbench.Binary64.Shortest
import Microbench.Proofs.Decimal.Digits

/-!
# Characters of number texts

Texts of numbers without groups have digits, signs, points and the letters of a few words in them,
whether their places are fixed or not. So none of their characters is a separator or a quote.
-/

namespace Microbench

namespace Binary64

/-- The characters of plain texts. -/
def IsPlainChar (char : Char) : Prop :=
  char.isDigit = true ∨ char ∈ ['-', '.', 'i', 'n', 'f', 'N', 'a']

theorem isPlainChar_of_mem_positional {decimal : Decimal} {char : Char}
    (member : char ∈ decimal.positional []) : IsPlainChar char := by
  have padded {count : Nat} (inPadded : char ∈ List.replicate count '0' ++
      Decimal.digits decimal.coefficient) : IsPlainChar char := by
    rw [List.mem_append, List.mem_replicate] at inPadded
    rcases inPadded with ⟨-, rfl⟩ | digit
    · exact Or.inl rfl
    · exact Or.inl (Decimal.isDigit_of_mem_digits digit)
  rw [Decimal.positional] at member
  split at member
  · rw [List.append_nil, List.mem_append, List.mem_replicate] at member
    rcases member with digit | ⟨-, rfl⟩
    · exact Or.inl (Decimal.isDigit_of_mem_digits digit)
    · exact Or.inl rfl
  · rw [List.mem_append, List.mem_cons] at member
    rcases member with before | rfl | after
    · exact padded (List.mem_of_mem_take before)
    · exact Or.inr (by simp)
    · exact padded (List.mem_of_mem_drop after)

/-- Texts of data differ only in the decimal number that is written for a finite one. -/
theorem isPlainChar_of_mem_text {datum : Binary64} {decimal : Decimal} {char : Char}
    (member : char ∈ if datum.isNaN then ['N', 'a', 'N']
      else if datum.isInfinite then datum.signText ++ ['i', 'n', 'f']
      else datum.signText ++ decimal.positional []) : IsPlainChar char := by
  have sign (inSign : char ∈ datum.signText) : IsPlainChar char := by
    rw [signText] at inSign
    split at inSign
    · rw [List.mem_singleton] at inSign
      exact Or.inr (by simp [inSign])
    · cases inSign
  split at member
  · have letters : char = 'N' ∨ char = 'a' ∨ char = 'N' := by simpa using member
    rcases letters with rfl | rfl | rfl <;> exact Or.inr (by simp)
  · split at member
    · rw [List.mem_append] at member
      rcases member with inSign | inName
      · exact sign inSign
      · have letters : char = 'i' ∨ char = 'n' ∨ char = 'f' := by simpa using inName
        rcases letters with rfl | rfl | rfl <;> exact Or.inr (by simp)
    · rw [List.mem_append] at member
      rcases member with inSign | inText
      · exact sign inSign
      · exact isPlainChar_of_mem_positional inText

theorem isPlainChar_of_mem_plain {datum : Binary64} {char : Char}
    (member : char ∈ datum.plain) : IsPlainChar char :=
  isPlainChar_of_mem_text member

theorem isPlainChar_of_mem_fixed {datum : Binary64} {places : Nat} {char : Char}
    (member : char ∈ datum.fixed places) : IsPlainChar char :=
  isPlainChar_of_mem_text member

end Binary64

end Microbench
