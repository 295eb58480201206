import Microbench.Json.Reader
import Microbench.Proofs.Binary64.NumberTexts

/-!
# The grammar of JSON texts

A tree and the texts that stand for it, by the rules of the format: what a number and a string are,
what stands between the items of a container, and where blanks may stand. A tree has many texts, as
blanks and escapes are free. A name may be repeated in an object; the grammar keeps all its members.

The rules are stated apart from the reader and the writer. Here the reader's check of numbers is
shown to accept exactly the numbers of the grammar.
-/

namespace Microbench.Json

open Binary64 (IsDigits IsExponent)

/-! ## Numbers -/

/-- The whole part of a number; a leading zero stands alone. -/
inductive IsWhole : List Char → Prop where
  | zero : IsWhole ['0']
  | leading {digit : Char} {digits : List Char} (isDigit : digit.isDigit = true)
    (nonzero : digit ≠ '0') (numeric : IsDigits digits) : IsWhole (digit :: digits)

/-- The places of a number, which may be missing. -/
inductive IsPlaces : List Char → Prop where
  | none : IsPlaces []
  | some {digits : List Char} (numeric : IsDigits digits) (solid : digits ≠ []) :
    IsPlaces ('.' :: digits)

/-- A number without a sign. -/
inductive IsUnsigned : List Char → Prop where
  | mk {whole places exponent : List Char} (isWhole : IsWhole whole) (isPlaces : IsPlaces places)
    (isExponent : IsExponent exponent) : IsUnsigned (whole ++ (places ++ exponent))

/-- A number, with a minus sign if it is negative. -/
inductive IsNumber : List Char → Prop where
  | plain {text : List Char} (isUnsigned : IsUnsigned text) : IsNumber text
  | minus {text : List Char} (isUnsigned : IsUnsigned text) : IsNumber ('-' :: text)

theorem isDigits_iff {digits : List Char} :
    (startsWithDigit digits && digits.all Char.isDigit) = true ↔ IsDigits digits ∧ digits ≠ [] := by
  cases digits with
  | nil => simp [startsWithDigit]
  | cons digit digits => simp [startsWithDigit, IsDigits]

/-- What may follow the letter of a power of ten: a sign, which may be missing, and digits. -/
theorem isExponentPart_cons {letter : Char} {text digits : List Char}
    (isUnsigned : Binary64.IsUnsigned text digits) :
    isExponentPart (letter :: text) = true ↔
      (letter = 'e' ∨ letter = 'E') ∧ IsDigits digits ∧ digits ≠ [] := by
  rw [← isDigits_iff]
  cases isUnsigned with
  | minus => simp [isExponentPart]
  | plus => simp [isExponentPart]
  | bare noMinus noPlus =>
      rw [isExponentPart]
      · simp
      · exact noPlus
      · exact noMinus

theorem isExponentPart_iff {text : List Char} : isExponentPart text = true ↔ IsExponent text := by
  constructor
  · intro check
    cases text with
    | nil => exact .none
    | cons letter text =>
        rcases Binary64.exists_isUnsigned text with ⟨digits, isUnsigned⟩
        rcases (isExponentPart_cons isUnsigned).mp check with ⟨isLetter, numeric, solid⟩
        rcases isUnsigned.exists_isSign with ⟨sign, isSign, rfl⟩
        exact .some isLetter isSign numeric solid
  · intro isExponent
    cases isExponent with
    | none => rfl
    | some isLetter isSign numeric solid =>
        have isUnsigned := isSign.isUnsigned (numeric.head_ne rfl) (numeric.head_ne rfl)
        exact (isExponentPart_cons isUnsigned).mpr ⟨isLetter, numeric, solid⟩

theorem isFractionPart_point (rest : List Char) :
    isFractionPart ('.' :: rest) = true ↔
      rest.takeWhile Char.isDigit ≠ [] ∧ IsExponent (rest.dropWhile Char.isDigit) := by
  rw [isFractionPart, Bool.and_eq_true, isExponentPart_iff]
  apply and_congr_left
  intro _
  cases rest with
  | nil => simp [startsWithDigit]
  | cons char rest => cases digit : char.isDigit <;> simp [startsWithDigit, digit]

theorem isFractionPart_iff {text : List Char} :
    isFractionPart text = true ↔
      ∃ places exponent, IsPlaces places ∧ IsExponent exponent ∧ text = places ++ exponent := by
  constructor
  · intro check
    by_cases point : ∃ rest, text = '.' :: rest
    · rcases point with ⟨rest, rfl⟩
      rcases (isFractionPart_point rest).mp check with ⟨solid, isExponent⟩
      refine ⟨_, _, .some (Binary64.isDigits_takeWhile rest) solid, isExponent, ?_⟩
      rw [List.cons_append, List.takeWhile_append_dropWhile]
    · rw [isFractionPart, isExponentPart_iff] at check
      · exact ⟨_, _, .none, check, rfl⟩
      · exact not_exists.mp point
  · rintro ⟨places, exponent, isPlaces, isExponent, rfl⟩
    cases isPlaces with
    | none =>
        rw [List.nil_append, isFractionPart, isExponentPart_iff]
        · exact isExponent
        · exact isExponent.ne_point
    | some numeric solid =>
        rcases numeric.span_append isExponent.head_notDigit with ⟨taken, left⟩
        rw [List.cons_append, isFractionPart_point, taken, left]
        exact ⟨solid, isExponent⟩

/-- Neither places nor a power of ten begin with a digit. -/
theorem head_notDigit {places exponent : List Char} (isPlaces : IsPlaces places)
    (isExponent : IsExponent exponent) :
    ∀ char ∈ (places ++ exponent).head?, char.isDigit = false := by
  cases isPlaces with
  | none => exact isExponent.head_notDigit
  | some =>
      rintro char ⟨⟩
      rfl

theorem isUnsignedNumber_iff {text : List Char} :
    isUnsignedNumber text = true ↔ IsUnsigned text := by
  constructor
  · intro check
    by_cases zero : ∃ rest, text = '0' :: rest
    · rcases zero with ⟨rest, rfl⟩
      rw [isUnsignedNumber] at check
      rcases isFractionPart_iff.mp check with ⟨places, exponent, isPlaces, isExponent, rfl⟩
      exact .mk .zero isPlaces isExponent
    · rw [isUnsignedNumber, Bool.and_eq_true] at check
      · rcases check with ⟨digit, fraction⟩
        rcases isFractionPart_iff.mp fraction with ⟨places, exponent, isPlaces, isExponent, shape⟩
        cases text with
        | nil => cases digit
        | cons char rest =>
            rw [startsWithDigit] at digit
            rw [List.dropWhile_cons_of_pos digit] at shape
            rw [← List.takeWhile_append_dropWhile (p := Char.isDigit) (l := rest), shape]
            have nonzero : char ≠ '0' := by
              rintro rfl
              exact zero ⟨rest, rfl⟩
            have numeric := Binary64.isDigits_takeWhile rest
            exact .mk (.leading digit nonzero numeric) isPlaces isExponent
      · exact not_exists.mp zero
  · rintro ⟨isWhole, isPlaces, isExponent⟩
    have fraction := isFractionPart_iff.mpr ⟨_, _, isPlaces, isExponent, rfl⟩
    cases isWhole with
    | zero => exact fraction
    | leading isDigit nonzero numeric =>
        have left := (numeric.span_append (head_notDigit isPlaces isExponent)).2
        rw [List.cons_append, isUnsignedNumber, List.dropWhile_cons_of_pos isDigit, left, fraction,
          startsWithDigit, isDigit]
        · rfl
        · rintro rest ⟨⟩
          exact nonzero rfl

/-- A number without a sign begins with a digit. -/
theorem IsUnsigned.ne_minus {text : List Char} (isUnsigned : IsUnsigned text) (rest : List Char) :
    text ≠ '-' :: rest := by
  cases isUnsigned with
  | mk isWhole _ _ =>
      cases isWhole with
      | zero =>
          intro equal
          cases equal
      | leading isDigit =>
          rintro equal
          cases equal
          cases isDigit

theorem isNumber_iff {text : List Char} : isNumber text = true ↔ IsNumber text := by
  constructor
  · intro check
    by_cases minus : ∃ rest, text = '-' :: rest
    · rcases minus with ⟨rest, rfl⟩
      exact .minus (isUnsignedNumber_iff.mp check)
    · rw [isNumber] at check
      · exact .plain (isUnsignedNumber_iff.mp check)
      · exact not_exists.mp minus
  · intro number
    cases number with
    | plain isUnsigned =>
        rw [isNumber]
        · exact isUnsignedNumber_iff.mpr isUnsigned
        · exact isUnsigned.ne_minus
    | minus isUnsigned => exact isUnsignedNumber_iff.mpr isUnsigned

theorem isNumberChar_of_isDigit {char : Char} (isDigit : char.isDigit = true) :
    isNumberChar char = true := by
  simp [isNumberChar, isDigit]

theorem IsWhole.isDigits {whole : List Char} (isWhole : IsWhole whole) : IsDigits whole := by
  cases isWhole with
  | zero => simp [IsDigits]
  | leading isDigit _ numeric => exact List.forall_mem_cons.mpr ⟨isDigit, numeric⟩

theorem IsPlaces.isNumberChar {places : List Char} (isPlaces : IsPlaces places) :
    ∀ char ∈ places, isNumberChar char = true := by
  cases isPlaces with
  | none => simp
  | some numeric =>
      rw [List.forall_mem_cons]
      constructor
      · rfl
      · intro char member
        exact isNumberChar_of_isDigit (numeric char member)

theorem isNumberChar_of_isExponent {exponent : List Char} (isExponent : IsExponent exponent) :
    ∀ char ∈ exponent, isNumberChar char = true := by
  cases isExponent with
  | none => simp
  | some isLetter isSign numeric =>
      rw [List.forall_mem_cons, List.forall_mem_append]
      refine ⟨?_, ?_, ?_⟩
      · rcases isLetter with rfl | rfl <;> rfl
      · cases isSign <;> simp [isNumberChar]
      · intro char member
        exact isNumberChar_of_isDigit (numeric char member)

theorem IsUnsigned.isNumberChar {text : List Char} (isUnsigned : IsUnsigned text) :
    ∀ char ∈ text, isNumberChar char = true := by
  cases isUnsigned with
  | mk isWhole isPlaces isExponent =>
      rw [List.forall_mem_append, List.forall_mem_append]
      refine ⟨?_, isPlaces.isNumberChar, isNumberChar_of_isExponent isExponent⟩
      intro char member
      exact isNumberChar_of_isDigit (isWhole.isDigits char member)

theorem IsNumber.isNumberChar {text : List Char} (number : IsNumber text) :
    ∀ char ∈ text, isNumberChar char = true := by
  cases number with
  | plain isUnsigned => exact isUnsigned.isNumberChar
  | minus isUnsigned => exact List.forall_mem_cons.mpr ⟨rfl, isUnsigned.isNumberChar⟩

/-! ## Strings -/

/-- Letters that escape a character when they stand after a backslash. -/
def shortEscapes : List (Char × Char) :=
  [('"', '"'), ('\\', '\\'), ('/', '/'), ('b', '\x08'), ('f', '\x0c'), ('n', '\n'), ('r', '\r'),
    ('t', '\t')]

/-- What may stand between quotes for a text. Half of a surrogate pair does not stand for a text. -/
inductive IsEscaped : List Char → List Char → Prop where
  | nil : IsEscaped [] []
  | bare {char : Char} {text written : List Char} (visible : 0x20 ≤ char.toNat)
      (noQuote : char ≠ '"') (noBackslash : char ≠ '\\') (rest : IsEscaped text written) :
    IsEscaped (char :: text) (char :: written)
  | short {letter char : Char} {text written : List Char}
      (isShort : (letter, char) ∈ shortEscapes) (rest : IsEscaped text written) :
    IsEscaped (char :: text) ('\\' :: letter :: written)
  | unit {first second third fourth : Char} {code : Nat} {text written : List Char}
      (isUnit : hexUnit? first second third fourth = some code)
      (noHigh : isHighSurrogate code = false) (noLow : isLowSurrogate code = false)
      (rest : IsEscaped text written) :
    IsEscaped (Char.ofNat code :: text)
      ('\\' :: 'u' :: first :: second :: third :: fourth :: written)
  | pair {first second third fourth first' second' third' fourth' : Char} {high low : Nat}
      {text written : List Char} (isUnit : hexUnit? first second third fourth = some high)
      (isUnit' : hexUnit? first' second' third' fourth' = some low)
      (isHigh : isHighSurrogate high = true) (isLow : isLowSurrogate low = true)
      (rest : IsEscaped text written) :
    IsEscaped (Char.ofNat (0x10000 + (high - 0xd800) * 0x400 + (low - 0xdc00)) :: text)
      ('\\' :: 'u' :: first :: second :: third :: fourth ::
        '\\' :: 'u' :: first' :: second' :: third' :: fourth' :: written)

/-! ## Values -/

def IsBlanks (text : List Char) : Prop := ∀ char ∈ text, isBlankChar char = true

theorem isBlanks_nil : IsBlanks [] := by
  simp [IsBlanks]

inductive IsString : String → List Char → Prop where
  | mk {text : String} {written : List Char} (isEscaped : IsEscaped text.toList written) :
    IsString text ('"' :: (written ++ ['"']))

mutual

/-- A tree without blanks around it. -/
inductive IsValue : Json String → List Char → Prop where
  | null : IsValue .null ['n', 'u', 'l', 'l']
  | true : IsValue (.bool true) ['t', 'r', 'u', 'e']
  | false : IsValue (.bool false) ['f', 'a', 'l', 's', 'e']
  | number {lexeme : List Char} (isNumber : IsNumber lexeme) : IsValue (.number lexeme) lexeme
  | string {text : String} {written : List Char} (isString : IsString text written) :
    IsValue (.string text) written
  | emptyArray {blanks : List Char} (isBlanks : IsBlanks blanks) :
    IsValue (.array []) ('[' :: (blanks ++ [']']))
  | array {items : List (Json String)} {written : List Char}
      (areElements : AreElements items written) :
    IsValue (.array items) ('[' :: (written ++ [']']))
  | emptyObject {blanks : List Char} (isBlanks : IsBlanks blanks) :
    IsValue (.object []) ('{' :: (blanks ++ ['}']))
  | object {members : List (String × Json String)} {written : List Char}
      (areMembers : AreMembers members written) :
    IsValue (.object members) ('{' :: (written ++ ['}']))

/-- A tree with blanks around it, as it may stand in an array or alone. -/
inductive IsElement : Json String → List Char → Prop where
  | mk {before written after : List Char} {tree : Json String} (blankBefore : IsBlanks before)
      (isValue : IsValue tree written) (blankAfter : IsBlanks after) :
    IsElement tree (before ++ (written ++ after))

/-- Items with commas between them, one item at least. -/
inductive AreElements : List (Json String) → List Char → Prop where
  | last {item : Json String} {written : List Char} (isElement : IsElement item written) :
    AreElements [item] written
  | more {item : Json String} {items : List (Json String)} {written rest : List Char}
      (isElement : IsElement item written) (areElements : AreElements items rest) :
    AreElements (item :: items) (written ++ ',' :: rest)

inductive IsMember : String × Json String → List Char → Prop where
  | mk {before named after written : List Char} {name : String} {value : Json String}
      (blankBefore : IsBlanks before) (isString : IsString name named) (blankAfter : IsBlanks after)
      (isElement : IsElement value written) :
    IsMember (name, value) (before ++ (named ++ (after ++ ':' :: written)))

/-- Members with commas between them, one member at least. -/
inductive AreMembers : List (String × Json String) → List Char → Prop where
  | last {member : String × Json String} {written : List Char}
      (isMember : IsMember member written) :
    AreMembers [member] written
  | more {member : String × Json String} {members : List (String × Json String)}
      {written rest : List Char} (isMember : IsMember member written)
      (areMembers : AreMembers members rest) :
    AreMembers (member :: members) (written ++ ',' :: rest)

end

end Microbench.Json
