import Mathlib.Data.List.TakeWhile
import Microbench.Binary64.Reading

/-!
# Texts of numbers

A text is read exactly if it is one of a number: an optional sign, and then a name, or digits with
at most one point and an optional power of ten.
-/

namespace Microbench.Binary64

def IsDigits (digits : List Char) : Prop := ∀ digit ∈ digits, digit.isDigit = true

/-- A sign, which may be missing. -/
inductive IsSign : List Char → Prop where
  | none : IsSign []
  | minus : IsSign ['-']
  | plus : IsSign ['+']

/-- A power of ten, which may be missing. -/
inductive IsExponent : List Char → Prop where
  | none : IsExponent []
  | some {letter : Char} {sign digits : List Char} (isLetter : letter = 'e' ∨ letter = 'E')
      (isSign : IsSign sign) (numeric : IsDigits digits) (solid : digits ≠ []) :
    IsExponent (letter :: (sign ++ digits))

/-- Digits with at most one point, one digit at least, and a power of ten. -/
inductive IsNumber : List Char → Prop where
  | whole {digits exponent : List Char} (numeric : IsDigits digits) (solid : digits ≠ [])
      (isExponent : IsExponent exponent) :
    IsNumber (digits ++ exponent)
  | point {whole fraction exponent : List Char} (numeric : IsDigits (whole ++ fraction))
      (solid : whole ++ fraction ≠ []) (isExponent : IsExponent exponent) :
    IsNumber (whole ++ '.' :: (fraction ++ exponent))

/-- The name of infinity or of no number, in any case. -/
def IsName (text : List Char) : Prop :=
  text.map Char.toLower ∈ ["inf".toList, "infinity".toList, "nan".toList]

/-- A text of a number. -/
def IsNumberText (text : List Char) : Prop :=
  ∃ sign magnitude, IsSign sign ∧ (IsName magnitude ∨ IsNumber magnitude) ∧
    text = sign ++ magnitude

theorem IsDigits.head_ne {digits : List Char} (numeric : IsDigits digits) {char : Char}
    (noDigit : char.isDigit = false) (rest : List Char) : digits ≠ char :: rest := by
  rintro rfl
  rw [numeric char List.mem_cons_self] at noDigit
  cases noDigit

/-- What a text has behind its sign. -/
inductive IsUnsigned : List Char → List Char → Prop where
  | minus (rest : List Char) : IsUnsigned ('-' :: rest) rest
  | plus (rest : List Char) : IsUnsigned ('+' :: rest) rest
  | bare {text : List Char} (noMinus : ∀ rest, text ≠ '-' :: rest)
      (noPlus : ∀ rest, text ≠ '+' :: rest) :
    IsUnsigned text text

theorem exists_isUnsigned (text : List Char) : ∃ rest, IsUnsigned text rest := by
  by_cases minus : ∃ rest, text = '-' :: rest
  · rcases minus with ⟨rest, rfl⟩
    exact ⟨rest, .minus rest⟩
  · by_cases plus : ∃ rest, text = '+' :: rest
    · rcases plus with ⟨rest, rfl⟩
      exact ⟨rest, .plus rest⟩
    · exact ⟨text, .bare (not_exists.mp minus) (not_exists.mp plus)⟩

theorem IsUnsigned.exists_isSign {text rest : List Char} (isUnsigned : IsUnsigned text rest) :
    ∃ sign, IsSign sign ∧ text = sign ++ rest := by
  cases isUnsigned with
  | minus => exact ⟨_, .minus, rfl⟩
  | plus => exact ⟨_, .plus, rfl⟩
  | bare => exact ⟨_, .none, rfl⟩

/-- A sign is taken off, and nothing else is. -/
theorem IsSign.isUnsigned {sign rest : List Char} (isSign : IsSign sign)
    (noMinus : ∀ later, rest ≠ '-' :: later) (noPlus : ∀ later, rest ≠ '+' :: later) :
    IsUnsigned (sign ++ rest) rest := by
  cases isSign with
  | none => exact .bare noMinus noPlus
  | minus => exact .minus rest
  | plus => exact .plus rest

theorem isSome_readExponent?_letter {letter : Char} (isLetter : letter = 'e' ∨ letter = 'E')
    {text digits : List Char} (isUnsigned : IsUnsigned text digits) :
    (readExponent? (letter :: text)).isSome = true ↔ IsDigits digits ∧ digits ≠ [] := by
  have digitsRead : (digits.isEmpty || !digits.all Char.isDigit) = false ↔
      IsDigits digits ∧ digits ≠ [] := by
    rw [Bool.or_eq_false_iff, List.isEmpty_eq_false_iff, Bool.not_eq_false', List.all_eq_true]
    exact and_comm
  rw [← digitsRead]
  cases isUnsigned with
  | minus => simp [readExponent?, isLetter]
  | plus => simp [readExponent?, isLetter]
  | bare noMinus noPlus => simp [readExponent?, isLetter]

theorem isSome_readExponent? {text : List Char} :
    (readExponent? text).isSome = true ↔ IsExponent text := by
  constructor
  · intro read
    cases text with
    | nil => exact .none
    | cons letter text =>
        by_cases isLetter : letter = 'e' ∨ letter = 'E'
        · rcases exists_isUnsigned text with ⟨digits, isUnsigned⟩
          rcases (isSome_readExponent?_letter isLetter isUnsigned).mp read with ⟨numeric, solid⟩
          rcases isUnsigned.exists_isSign with ⟨sign, isSign, rfl⟩
          exact .some isLetter isSign numeric solid
        · simp [readExponent?, isLetter] at read
  · intro isExponent
    cases isExponent with
    | none => rfl
    | some isLetter isSign numeric solid =>
        have isUnsigned := isSign.isUnsigned (numeric.head_ne rfl) (numeric.head_ne rfl)
        exact (isSome_readExponent?_letter isLetter isUnsigned).mpr ⟨numeric, solid⟩

theorem isSome_digits {digits : List Char} {exponent? : Option Int} {value : Int → Nat} :
    (if digits.isEmpty then none else exponent?.map value).isSome = true ↔
      digits ≠ [] ∧ exponent?.isSome = true := by
  cases digits <;> simp

theorem isSome_readNumber?_whole {text : List Char}
    (noPoint : ∀ rest, text.dropWhile Char.isDigit ≠ '.' :: rest) :
    (readNumber? text).isSome = true ↔
      text.takeWhile Char.isDigit ≠ [] ∧ IsExponent (text.dropWhile Char.isDigit) := by
  rw [← isSome_readExponent?, readNumber?]
  split
  rename_i fraction exponent shape
  split at shape
  · rename_i rest point
    exact absurd point (noPoint rest)
  · cases shape
    rw [List.append_nil]
    exact isSome_digits

theorem isSome_readNumber?_point {text rest : List Char}
    (shape : text.dropWhile Char.isDigit = '.' :: rest) :
    (readNumber? text).isSome = true ↔
      text.takeWhile Char.isDigit ++ rest.takeWhile Char.isDigit ≠ [] ∧
        IsExponent (rest.dropWhile Char.isDigit) := by
  rw [← isSome_readExponent?, readNumber?, shape]
  exact isSome_digits

theorem isDigits_takeWhile (text : List Char) : IsDigits (text.takeWhile Char.isDigit) :=
  fun _ member => List.mem_takeWhile_imp member

theorem isDigits_append {digits others : List Char} :
    IsDigits (digits ++ others) ↔ IsDigits digits ∧ IsDigits others :=
  List.forall_mem_append

theorem IsExponent.ne_point {exponent : List Char} (isExponent : IsExponent exponent)
    (rest : List Char) : exponent ≠ '.' :: rest := by
  rintro rfl
  cases isExponent with
  | some isLetter => simp at isLetter

theorem IsExponent.head_notDigit {exponent : List Char} (isExponent : IsExponent exponent) :
    ∀ char ∈ exponent.head?, char.isDigit = false := by
  intro char head
  cases isExponent with
  | none => cases head
  | some isLetter =>
      cases head
      rcases isLetter with rfl | rfl
      · rfl
      · rfl

/-- Digits end where the first other character is. -/
theorem IsDigits.span_append {digits rest : List Char} (numeric : IsDigits digits)
    (ends : ∀ char ∈ rest.head?, char.isDigit = false) :
    (digits ++ rest).takeWhile Char.isDigit = digits ∧
      (digits ++ rest).dropWhile Char.isDigit = rest := by
  rw [List.takeWhile_append_of_pos numeric, List.dropWhile_append_of_pos numeric]
  cases rest with
  | nil => exact ⟨List.append_nil digits, rfl⟩
  | cons char rest => simp [ends char rfl]

theorem isSome_readNumber? {text : List Char} :
    (readNumber? text).isSome = true ↔ IsNumber text := by
  constructor
  · intro read
    have parts := List.takeWhile_append_dropWhile (p := Char.isDigit) (l := text)
    by_cases point : ∃ rest, text.dropWhile Char.isDigit = '.' :: rest
    · rcases point with ⟨rest, shape⟩
      have later := List.takeWhile_append_dropWhile (p := Char.isDigit) (l := rest)
      rcases (isSome_readNumber?_point shape).mp read with ⟨solid, isExponent⟩
      rw [← parts, shape, ← later]
      exact .point (isDigits_append.mpr ⟨isDigits_takeWhile text, isDigits_takeWhile rest⟩) solid
        isExponent
    · rcases (isSome_readNumber?_whole (not_exists.mp point)).mp read with ⟨solid, isExponent⟩
      rw [← parts]
      exact .whole (isDigits_takeWhile text) solid isExponent
  · intro isNumber
    cases isNumber with
    | whole numeric solid isExponent =>
        rcases numeric.span_append isExponent.head_notDigit with ⟨taken, left⟩
        rw [isSome_readNumber?_whole, taken, left]
        · exact ⟨solid, isExponent⟩
        · rw [left]
          exact isExponent.ne_point
    | @point whole fraction exponent numeric solid isExponent =>
        rcases isDigits_append.mp numeric with ⟨wholeNumeric, fractionNumeric⟩
        have pointEnds : ∀ char ∈ ('.' :: (fraction ++ exponent)).head?, char.isDigit = false := by
          rintro char ⟨⟩
          rfl
        rcases wholeNumeric.span_append pointEnds with ⟨wholeTaken, wholeLeft⟩
        rcases fractionNumeric.span_append isExponent.head_notDigit with ⟨taken, left⟩
        rw [isSome_readNumber?_point wholeLeft, wholeTaken, taken, left]
        exact ⟨solid, isExponent⟩

theorem isSome_readMagnitude? {text : List Char} :
    (readMagnitude? text).isSome = true ↔ IsName text ∨ IsNumber text := by
  rw [← isSome_readNumber?, readMagnitude?, IsName]
  split
  · rename_i infinite
    rcases infinite with shape | shape
    · simp [shape]
    · simp [shape]
  · rename_i finite
    split
    · rename_i isNaN
      simp [isNaN]
    · rename_i number
      rw [not_or] at finite
      rw [or_iff_right]
      simp only [List.mem_cons, List.not_mem_nil, or_false, not_or]
      exact ⟨finite.1, finite.2, number⟩

/-- What comes after a sign does not begin with one. -/
theorem head_ne_sign {magnitude : List Char} (isMagnitude : IsName magnitude ∨ IsNumber magnitude)
    {sign : Char} (isSign : sign = '-' ∨ sign = '+') (rest : List Char) :
    magnitude ≠ sign :: rest := by
  rintro rfl
  rcases isMagnitude with isName | isNumber
  · rcases isSign with rfl | rfl
    · simp [IsName] at isName
    · simp [IsName] at isName
  · rw [← isSome_readNumber?] at isNumber
    rcases isSign with rfl | rfl
    · exact ((isSome_readNumber?_whole (by simp)).mp isNumber).1 rfl
    · exact ((isSome_readNumber?_whole (by simp)).mp isNumber).1 rfl

theorem isSome_read?_unsigned {text magnitude : List Char}
    (isUnsigned : IsUnsigned text magnitude) :
    (read? text).isSome = true ↔ IsName magnitude ∨ IsNumber magnitude := by
  rw [← isSome_readMagnitude?]
  cases isUnsigned with
  | minus => simp [read?]
  | plus => simp [read?]
  | bare noMinus noPlus => simp [read?]

/-- A text is read exactly if it is one of a number. -/
theorem isSome_read? {text : List Char} : (read? text).isSome = true ↔ IsNumberText text := by
  constructor
  · intro read
    rcases exists_isUnsigned text with ⟨magnitude, isUnsigned⟩
    rcases isUnsigned.exists_isSign with ⟨sign, isSign, shape⟩
    exact ⟨sign, magnitude, isSign, (isSome_read?_unsigned isUnsigned).mp read, shape⟩
  · rintro ⟨sign, magnitude, isSign, isMagnitude, rfl⟩
    have isUnsigned := isSign.isUnsigned (head_ne_sign isMagnitude (.inl rfl))
      (head_ne_sign isMagnitude (.inr rfl))
    exact (isSome_read?_unsigned isUnsigned).mpr isMagnitude

end Microbench.Binary64
