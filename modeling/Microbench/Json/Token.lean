/-!
# JSON tokens

The tokens of a text: punctuation and scalars, with blanks between them left out.  The reading of
a string takes its escapes one by one and joins surrogate pairs afterwards, so that a string with
half a pair is a token that denotes no text.
-/

namespace Microbench.Json

/-- A token of a JSON text. -/
inductive Token where
  | openArray
  | closeArray
  | openObject
  | closeObject
  | comma
  | colon
  | null
  | bool (value : Bool)
  | number (lexeme : List Char)
  | string (text : Option String)

/-- What one character or escape of a string stands for. -/
inductive StringPart where
  | char (value : Char)
  /-- A number of sixteen bits, given by its hexadecimal digits. -/
  | unit (value : Nat)

def hexValue? (digit : Char) : Option Nat :=
  if digit.isDigit then some (digit.toNat - '0'.toNat)
  else if 'a' ≤ digit ∧ digit ≤ 'f' then some (digit.toNat - 'a'.toNat + 10)
  else if 'A' ≤ digit ∧ digit ≤ 'F' then some (digit.toNat - 'A'.toNat + 10)
  else none

/-- The number that four hexadecimal digits denote. -/
def hexUnit? (first second third fourth : Char) : Option Nat := do
  let first ← hexValue? first
  let second ← hexValue? second
  let third ← hexValue? third
  let fourth ← hexValue? fourth
  return ((first * 16 + second) * 16 + third) * 16 + fourth

/-- The character that a letter after a backslash stands for. -/
def escaped? : Char → Option Char
  | '"' => some '"'
  | '\\' => some '\\'
  | '/' => some '/'
  | 'b' => some '\x08'
  | 'f' => some '\x0c'
  | 'n' => some '\n'
  | 'r' => some '\r'
  | 't' => some '\t'
  | _ => none

/-- The parts of a string up to its closing quote, and what follows it. -/
def stringParts? : List Char → Option (List StringPart × List Char)
  | [] => none
  | '"' :: rest => some ([], rest)
  | '\\' :: rest =>
    match rest with
    | 'u' :: first :: second :: third :: fourth :: rest =>
      match hexUnit? first second third fourth, stringParts? rest with
      | some value, some (parts, rest) => some (.unit value :: parts, rest)
      | _, _ => none
    | letter :: rest =>
      match escaped? letter, stringParts? rest with
      | some char, some (parts, rest) => some (.char char :: parts, rest)
      | _, _ => none
    | [] => none
  | char :: rest =>
    if char.toNat < 0x20 then none
    else
      match stringParts? rest with
      | some (parts, rest) => some (.char char :: parts, rest)
      | none => none

/-- Whether a unit is the first half of a surrogate pair. -/
def isHighSurrogate (value : Nat) : Bool := 0xd800 ≤ value && value < 0xdc00

/-- Whether a unit is the second half of a surrogate pair. -/
def isLowSurrogate (value : Nat) : Bool := 0xdc00 ≤ value && value < 0xe000

/-- The text of a string's parts, unless half of a surrogate pair stands alone. -/
def joinParts? : List StringPart → Option (List Char)
  | [] => some []
  | .char value :: parts => (joinParts? parts).map (value :: ·)
  | .unit high :: parts =>
    if isHighSurrogate high then
      match parts with
      | .unit low :: parts =>
        if isLowSurrogate low then
          (joinParts? parts).map
            (Char.ofNat (0x10000 + (high - 0xd800) * 0x400 + (low - 0xdc00)) :: ·)
        else none
      | _ => none
    else if isLowSurrogate high then none
    else (joinParts? parts).map (Char.ofNat high :: ·)

def startsWithDigit : List Char → Bool
  | digit :: _ => digit.isDigit
  | [] => false

/-- Whether a text is nothing or the power of ten of a number. -/
def isExponentPart : List Char → Bool
  | [] => true
  | letter :: rest =>
    (letter == 'e' || letter == 'E') &&
      match rest with
      | '+' :: digits | '-' :: digits => startsWithDigit digits && digits.all Char.isDigit
      | digits => startsWithDigit digits && digits.all Char.isDigit

/-- Whether a text is the places of a number, if any, and its power of ten, if any. -/
def isFractionPart : List Char → Bool
  | '.' :: rest => startsWithDigit rest && isExponentPart (rest.dropWhile Char.isDigit)
  | rest => isExponentPart rest

/-- Whether a text is a number without a sign; a leading zero stands alone. -/
def isUnsignedNumber : List Char → Bool
  | '0' :: rest => isFractionPart rest
  | rest => startsWithDigit rest && isFractionPart (rest.dropWhile Char.isDigit)

def isNumber : List Char → Bool
  | '-' :: rest => isUnsignedNumber rest
  | rest => isUnsignedNumber rest

/-- Whether a character can stand in a number. -/
def isNumberChar (char : Char) : Bool :=
  char.isDigit || char == '-' || char == '+' || char == '.' || char == 'e' || char == 'E'

/-- Whether a character may stand between tokens. -/
def isBlankChar (char : Char) : Bool :=
  char == ' ' || char == '\t' || char == '\n' || char == '\r'

def punctuation? : Char → Option Token
  | '[' => some .openArray
  | ']' => some .closeArray
  | '{' => some .openObject
  | '}' => some .closeObject
  | ',' => some .comma
  | ':' => some .colon
  | _ => none

/-- The number that starts with a character, and the text after it. -/
def numberToken? (char : Char) (rest : List Char) : Option (Token × List Char) :=
  if isNumber (char :: rest.takeWhile isNumberChar) then
    some (.number (char :: rest.takeWhile isNumberChar), rest.dropWhile isNumberChar)
  else none

/-- The string after its opening quote, and the text after it. -/
def stringToken? (rest : List Char) : Option (Token × List Char) :=
  (stringParts? rest).map fun result =>
    (.string ((joinParts? result.1).map String.ofList), result.2)

/-- The word that starts with a character, and the text after it. -/
def wordToken? : Char → List Char → Option (Token × List Char)
  | 'n', 'u' :: 'l' :: 'l' :: rest => some (.null, rest)
  | 't', 'r' :: 'u' :: 'e' :: rest => some (.bool true, rest)
  | 'f', 'a' :: 'l' :: 's' :: 'e' :: rest => some (.bool false, rest)
  | _, _ => none

/-- The token that starts with a character, and the text after it. -/
def nextToken? (char : Char) (rest : List Char) : Option (Token × List Char) :=
  if char = '"' then stringToken? rest
  else if char = '-' ∨ char.isDigit then numberToken? char rest
  else
    match punctuation? char with
    | some token => some (token, rest)
    | none => wordToken? char rest

theorem length_of_stringParts? {text rest : List Char} {parts : List StringPart}
    (read : stringParts? text = some (parts, rest)) : rest.length < text.length := by
  fun_induction stringParts? text generalizing parts rest <;> simp at read ⊢ <;> grind

theorem length_dropWhile_le (keep : Char → Bool) (text : List Char) :
    (text.dropWhile keep).length ≤ text.length := by
  induction text with
  | nil => simp
  | cons char rest hypothesis =>
    by_cases kept : keep char = true
    · simp only [List.dropWhile_cons_of_pos kept, List.length_cons]
      omega
    · simp [List.dropWhile_cons_of_neg kept]

theorem length_of_nextToken? {char : Char} {text rest : List Char} {token : Token}
    (read : nextToken? char text = some (token, rest)) : rest.length ≤ text.length := by
  unfold nextToken? at read
  split at read
  · simp only [stringToken?, Option.map_eq_some_iff, Prod.mk.injEq] at read
    obtain ⟨⟨parts, after⟩, found, -, rfl⟩ := read
    exact Nat.le_of_lt (length_of_stringParts? found)
  · split at read
    · simp only [numberToken?] at read
      split at read
      · simp only [Option.some.injEq, Prod.mk.injEq] at read
        rw [← read.2]
        exact length_dropWhile_le _ _
      · simp at read
    · split at read
      · simp only [Option.some.injEq, Prod.mk.injEq] at read
        simp [read.2]
      · unfold wordToken? at read
        split at read <;> simp at read <;> simp [← read.2] <;> omega

def tokens? : List Char → Option (List Token)
  | [] => some []
  | char :: rest =>
    if isBlankChar char then tokens? rest
    else
      match _read : nextToken? char rest with
      | none => none
      | some (token, after) => (tokens? after).map (token :: ·)
termination_by text => text.length
decreasing_by
  · simp
  · have := length_of_nextToken? _read
    simp only [List.length_cons]
    omega

end Microbench.Json
