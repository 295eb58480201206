import Microbench.Proofs.Json.Grammar
import Mathlib.Tactic.IntervalCases

/-!
# Written trees read back

A tree that is written in any layout is read as the same tree. The written text follows the
grammar; every text that follows the grammar has exactly the tokens of its tree; and these tokens
build exactly this tree.

A number is the only thing whose end is not marked in the text. What follows a tree must therefore
not go on like a number; every character that the grammar puts after a tree is of this kind.
-/

namespace Microbench.Json

/-- A text that a number token can be read from as a whole. -/
def IsLexeme (lexeme : List Char) : Prop :=
  isNumber lexeme = true ∧ ∀ char ∈ lexeme, isNumberChar char = true

theorem isLexeme_iff {lexeme : List Char} : IsLexeme lexeme ↔ IsNumber lexeme :=
  ⟨fun isLexeme => isNumber_iff.mp isLexeme.1,
    fun number => ⟨isNumber_iff.mpr number, number.isNumberChar⟩⟩

/-- What follows does not go on like a number. -/
def EndsNumber (rest : List Char) : Prop :=
  ∀ char ∈ rest.head?, isNumberChar char = false

/-- The layout puts nothing but blanks between tokens. -/
structure Layout.IsBlank (layout : Layout) : Prop where
  lineBreak : ∀ depth, ∀ char ∈ layout.lineBreak depth, isBlankChar char = true
  afterColon : ∀ char ∈ layout.afterColon, isBlankChar char = true

theorem compactLayout_isBlank : compactLayout.IsBlank :=
  ⟨by simp [compactLayout], by simp [compactLayout]⟩

theorem prettyLayout_isBlank : prettyLayout.IsBlank := by
  constructor
  · intro depth char member
    simp only [prettyLayout, List.mem_cons, List.mem_replicate] at member
    rcases member with rfl | ⟨-, rfl⟩ <;> rfl
  · intro char member
    simp only [prettyLayout, List.mem_singleton] at member
    subst member
    rfl

/-! ## The tree that is read -/

section Map

variable {σ τ : Type}

mutual

/-- The tree with other texts. -/
def map (change : σ → τ) : Json σ → Json τ
  | .null => .null
  | .bool value => .bool value
  | .number lexeme => .number lexeme
  | .string text => .string (change text)
  | .array items => .array (mapItems change items)
  | .object members => .object (mapMembers change members)

def mapItems (change : σ → τ) : List (Json σ) → List (Json τ)
  | [] => []
  | item :: items => map change item :: mapItems change items

/-- Members with other texts. -/
def mapMembers (change : σ → τ) : List (σ × Json σ) → List (τ × Json τ)
  | [] => []
  | (name, value) :: members => (change name, map change value) :: mapMembers change members

end

theorem mapMembers_eq (change : σ → τ) (members : List (σ × Json σ)) :
    mapMembers change members = members.map (Prod.map change (map change)) := by
  induction members with
  | nil => rfl
  | cons member members ih => simp [mapMembers, ih, Prod.map]

end Map

mutual

theorem map_some_map (tree : Json String) : (tree.map some).map (Option.getD · "") = tree := by
  cases tree with
  | null => rfl
  | bool value => rfl
  | number lexeme => rfl
  | string text => rfl
  | array items => simp [map, mapItems_some_mapItems items]
  | object members => simp [map, mapMembers_some_mapMembers members]

theorem mapItems_some_mapItems (items : List (Json String)) :
    mapItems (Option.getD · "") (mapItems some items) = items := by
  cases items with
  | nil => rfl
  | cons item items => simp [mapItems, map_some_map item, mapItems_some_mapItems items]

theorem mapMembers_some_mapMembers (members : List (String × Json String)) :
    mapMembers (Option.getD · "") (mapMembers some members) = members := by
  cases members with
  | nil => rfl
  | cons member members =>
      rcases member with ⟨name, value⟩
      simp [mapMembers, map_some_map value, mapMembers_some_mapMembers members]

end

mutual

/-- Every number in the tree can be read. -/
def HasLexemes : Json String → Prop
  | .null | .bool _ | .string _ => True
  | .number lexeme => IsLexeme lexeme
  | .array items => ItemsHaveLexemes items
  | .object members => MembersHaveLexemes members

def ItemsHaveLexemes : List (Json String) → Prop
  | [] => True
  | item :: items => HasLexemes item ∧ ItemsHaveLexemes items

/-- Every number in the members can be read. -/
def MembersHaveLexemes : List (String × Json String) → Prop
  | [] => True
  | (_, value) :: members => HasLexemes value ∧ MembersHaveLexemes members

end

theorem itemsHaveLexemes_iff {items : List (Json String)} :
    ItemsHaveLexemes items ↔ ∀ item ∈ items, HasLexemes item := by
  induction items with
  | nil => simp [ItemsHaveLexemes]
  | cons item items ih => simp [ItemsHaveLexemes, ih]

theorem membersHaveLexemes_iff {members : List (String × Json String)} :
    MembersHaveLexemes members ↔ ∀ member ∈ members, HasLexemes member.2 := by
  induction members with
  | nil => simp [MembersHaveLexemes]
  | cons member members ih =>
      simp only [MembersHaveLexemes, ih, List.forall_mem_cons]

mutual

def treeTokens : Json String → List Token
  | .null => [.null]
  | .bool value => [.bool value]
  | .number lexeme => [.number lexeme]
  | .string text => [.string (some text)]
  | .array [] => [.openArray, .closeArray]
  | .array (item :: items) =>
    .openArray :: (treeTokens item ++ (itemTokens items ++ [.closeArray]))
  | .object [] => [.openObject, .closeObject]
  | .object ((name, value) :: members) =>
    .openObject :: .string (some name) :: .colon ::
      (treeTokens value ++ (memberTokens members ++ [.closeObject]))

def itemTokens : List (Json String) → List Token
  | [] => []
  | item :: items => .comma :: (treeTokens item ++ itemTokens items)

def memberTokens : List (String × Json String) → List Token
  | [] => []
  | (name, value) :: members =>
    .comma :: .string (some name) :: .colon :: (treeTokens value ++ memberTokens members)

end

/-! ## Written trees -/

theorem hexValue?_hexDigit {value : Nat} (small : value < 16) :
    hexValue? (hexDigit value) = some value := by
  interval_cases value <;> rfl

theorem hexUnit?_control {code : Nat} (control : code < 0x20) :
    hexUnit? '0' '0' (hexDigit (code / 16)) (hexDigit (code % 16)) = some code := by
  have zero : hexValue? '0' = some 0 := rfl
  simp only [hexUnit?, zero, hexValue?_hexDigit (show code / 16 < 16 by omega),
    hexValue?_hexDigit (show code % 16 < 16 by omega), Option.bind_eq_bind, Option.bind_some,
    Option.pure_def]
  congr 1
  omega

theorem IsEscaped.escapeChar {text written : List Char} (rest : IsEscaped text written)
    (char : Char) : IsEscaped (char :: text) (escapeChar char ++ written) := by
  by_cases short : ∃ letter, (letter, char) ∈ shortEscapes ∧ Json.escapeChar char = ['\\', letter]
  · rcases short with ⟨letter, isShort, shape⟩
    rw [shape]
    exact .short isShort rest
  · have plain : char ∉ ['"', '\\', '\x08', '\x0c', '\n', '\r', '\t'] := by
      intro member
      apply short
      simp only [List.mem_cons, List.not_mem_nil, or_false] at member
      rcases member with rfl | rfl | rfl | rfl | rfl | rfl | rfl <;>
        simp [shortEscapes, Json.escapeChar]
    simp only [List.mem_cons, List.not_mem_nil, or_false, not_or] at plain
    rcases plain with ⟨quote, backslash, backspace, feed, line, carriage, tab⟩
    rw [Json.escapeChar, if_neg quote, if_neg backslash, if_neg backspace, if_neg feed, if_neg line,
      if_neg carriage, if_neg tab]
    by_cases control : char.toNat < 0x20
    · rw [if_pos control]
      have noHigh : isHighSurrogate char.toNat = false := by
        simp only [isHighSurrogate, Bool.and_eq_false_iff, decide_eq_false_iff_not]
        omega
      have noLow : isLowSurrogate char.toNat = false := by
        simp only [isLowSurrogate, Bool.and_eq_false_iff, decide_eq_false_iff_not]
        omega
      have unit := IsEscaped.unit (hexUnit?_control control) noHigh noLow rest
      rw [Char.ofNat_toNat] at unit
      exact unit
    · rw [if_neg control]
      exact .bare (Nat.le_of_not_lt control) quote backslash rest

theorem isString_quote (text : String) : IsString text (quote text) := by
  have isEscaped (chars : List Char) : IsEscaped chars (chars.flatMap escapeChar) := by
    induction chars with
    | nil => exact .nil
    | cons char chars ih => exact ih.escapeChar char
  exact .mk (isEscaped text.toList)

section Layout

variable {layout : Layout} (isBlank : layout.IsBlank)
include isBlank

mutual

theorem isValue_write (depth : Nat) (tree : Json String) (lexemes : HasLexemes tree) :
    IsValue tree (write layout depth tree) := by
  cases tree with
  | null => exact .null
  | bool value =>
      cases value with
      | true => exact .true
      | false => exact .false
  | number lexeme => exact .number (isLexeme_iff.mp lexemes)
  | string text => exact .string (isString_quote text)
  | array items =>
      cases items with
      | nil => exact .emptyArray isBlanks_nil
      | cons item items =>
          rcases lexemes with ⟨itemLexemes, itemsLexemes⟩
          have isValue := isValue_write (depth + 1) item itemLexemes
          have after := isBlank.lineBreak depth
          have areElements := areElements_write (depth + 1) items itemsLexemes isValue after
          simpa [write] using IsValue.array areElements
  | object members =>
      cases members with
      | nil => exact .emptyObject isBlanks_nil
      | cons member members =>
          rcases member with ⟨name, value⟩
          rcases lexemes with ⟨valueLexemes, membersLexemes⟩
          have isValue := isValue_write (depth + 1) value valueLexemes
          have after := isBlank.lineBreak depth
          have areMembers :=
            areMembers_write (depth + 1) name members membersLexemes isValue after
          simpa [write] using IsValue.object areMembers

/-- Blanks that end a container belong to its last item. -/
theorem areElements_write (depth : Nat) (items : List (Json String))
    (lexemes : ItemsHaveLexemes items) {first : Json String} {written after : List Char}
    (isValue : IsValue first written) (blankAfter : IsBlanks after) :
    AreElements (first :: items)
      (layout.lineBreak depth ++ (written ++ (writeItems layout depth items ++ after))) := by
  have blankBefore := isBlank.lineBreak depth
  cases items with
  | nil => exact .last (.mk blankBefore isValue blankAfter)
  | cons item items =>
      rcases lexemes with ⟨itemLexemes, itemsLexemes⟩
      have isElement := IsElement.mk blankBefore isValue isBlanks_nil
      have next := isValue_write depth item itemLexemes
      have areElements := areElements_write depth items itemsLexemes next blankAfter
      simpa [writeItems] using AreElements.more isElement areElements

theorem areMembers_write (depth : Nat) (name : String) (members : List (String × Json String))
    (lexemes : MembersHaveLexemes members) {first : Json String} {written after : List Char}
    (isValue : IsValue first written) (blankAfter : IsBlanks after) :
    AreMembers ((name, first) :: members)
      (layout.lineBreak depth ++ (quote name ++ (':' :: (layout.afterColon ++
        (written ++ (writeMembers layout depth members ++ after)))))) := by
  have blankBefore := isBlank.lineBreak depth
  have blankColon := isBlank.afterColon
  cases members with
  | nil =>
      have isElement := IsElement.mk blankColon isValue blankAfter
      have isMember := IsMember.mk blankBefore (isString_quote name) isBlanks_nil isElement
      exact .last isMember
  | cons member members =>
      rcases member with ⟨nextName, value⟩
      rcases lexemes with ⟨valueLexemes, membersLexemes⟩
      have isElement := IsElement.mk blankColon isValue isBlanks_nil
      have isMember := IsMember.mk blankBefore (isString_quote name) isBlanks_nil isElement
      have next := isValue_write depth value valueLexemes
      have areMembers := areMembers_write depth nextName members membersLexemes next blankAfter
      simpa [writeMembers] using AreMembers.more isMember areMembers

end

end Layout

/-- A tree is written by the rules. -/
theorem isElement_write {layout : Layout} (isBlank : layout.IsBlank) (depth : Nat)
    {tree : Json String} (lexemes : HasLexemes tree) :
    IsElement tree (write layout depth tree) := by
  have isValue := isValue_write isBlank depth tree lexemes
  simpa using IsElement.mk isBlanks_nil isValue isBlanks_nil

/-! ## Tokens of texts -/

theorem tokens?_cons (char : Char) (rest : List Char) :
    tokens? (char :: rest) =
      if isBlankChar char then tokens? rest
      else (nextToken? char rest).bind fun result =>
        (tokens? result.2).map (result.1 :: ·) := by
  rw [tokens?]
  split
  · rfl
  · split
    · rename_i missing
      rw [missing]
      rfl
    · rename_i found
      rw [found]
      rfl

theorem tokens?_blanks {blanks : List Char}
    (blank : ∀ char ∈ blanks, isBlankChar char = true) (rest : List Char) :
    tokens? (blanks ++ rest) = tokens? rest := by
  induction blanks with
  | nil => rfl
  | cons char blanks ih =>
      rw [List.cons_append, tokens?_cons, if_pos (blank char (by simp))]
      apply ih
      intro other member
      exact blank other (by simp [member])

theorem tokens?_punctuation {char : Char} (token : Token)
    (punctuation : punctuation? char = some token) (rest : List Char) :
    tokens? (char :: rest) = (tokens? rest).map (token :: ·) := by
  have plain : isBlankChar char = false ∧ char ≠ '"' ∧ ¬(char = '-' ∨ char.isDigit = true) := by
    unfold punctuation? at punctuation
    split at punctuation
    all_goals first | decide | cases punctuation
  rcases plain with ⟨solid, noQuote, noNumber⟩
  simp [tokens?_cons, nextToken?, solid, noQuote, noNumber, punctuation]

theorem isNumber_head {char : Char} {rest : List Char} (number : isNumber (char :: rest) = true) :
    char = '-' ∨ char.isDigit = true := by
  unfold isNumber at number
  split at number
  · rename_i equal
    simp only [List.cons.injEq] at equal
    exact Or.inl equal.1
  · right
    unfold isUnsignedNumber at number
    split at number
    · rename_i equal
      simp only [List.cons.injEq] at equal
      rw [equal.1]
      rfl
    · simp only [startsWithDigit, Bool.and_eq_true] at number
      exact number.1

theorem takeWhile_of_endsNumber {rest : List Char} (ends : EndsNumber rest) :
    rest.takeWhile isNumberChar = [] ∧ rest.dropWhile isNumberChar = rest := by
  cases rest with
  | nil => exact ⟨rfl, rfl⟩
  | cons char rest =>
      have stops : isNumberChar char = false := ends char rfl
      simp [stops]

theorem tokens?_lexeme {lexeme rest : List Char} (number : IsLexeme lexeme)
    (ends : EndsNumber rest) :
    tokens? (lexeme ++ rest) = (tokens? rest).map (.number lexeme :: ·) := by
  rcases number with ⟨isNumber, chars⟩
  cases lexeme with
  | nil => simp [Json.isNumber, isUnsignedNumber, startsWithDigit] at isNumber
  | cons char lexeme =>
      have head := isNumber_head isNumber
      have solid : isBlankChar char = false := by
        rcases head with rfl | digit
        · rfl
        · simp only [isBlankChar, Bool.or_eq_false_iff, beq_eq_false_iff_ne]
          refine ⟨⟨⟨?_, ?_⟩, ?_⟩, ?_⟩ <;> rintro rfl <;> cases digit
      have noQuote : char ≠ '"' := by
        rintro rfl
        rcases head with equal | digit
        · cases equal
        · cases digit
      have tail : ∀ other ∈ lexeme, isNumberChar other = true := by
        intro other member
        exact chars other (by simp [member])
      rcases takeWhile_of_endsNumber ends with ⟨taken, dropped⟩
      simp [tokens?_cons, nextToken?, numberToken?, solid, noQuote, head,
        List.takeWhile_append_of_pos tail, List.dropWhile_append_of_pos tail, taken, dropped,
        isNumber]

theorem endsNumber_cons {char : Char} (other : isNumberChar char = false) (rest : List Char) :
    EndsNumber (char :: rest) := by
  intro first first_mem
  simp only [List.head?_cons, Option.mem_def, Option.some.injEq] at first_mem
  rw [← first_mem]
  exact other

theorem isNumberChar_of_blank {char : Char} (blank : isBlankChar char = true) :
    isNumberChar char = false := by
  simp only [isBlankChar, Bool.or_eq_true, beq_iff_eq] at blank
  rcases blank with ((rfl | rfl) | rfl) | rfl <;> rfl

theorem endsNumber_blanks {blanks rest : List Char}
    (blank : ∀ char ∈ blanks, isBlankChar char = true) (ends : EndsNumber rest) :
    EndsNumber (blanks ++ rest) := by
  cases blanks with
  | nil => exact ends
  | cons char blanks =>
      apply endsNumber_cons
      exact isNumberChar_of_blank (blank char (by simp))

theorem IsEscaped.exists_stringParts? {text written : List Char}
    (isEscaped : IsEscaped text written) (rest : List Char) :
    ∃ parts, stringParts? (written ++ '"' :: rest) = some (parts, rest) ∧
      joinParts? parts = some text := by
  induction isEscaped with
  | nil => exact ⟨[], by simp [stringParts?], rfl⟩
  | @bare char _ _ visible noQuote noBackslash _ ih =>
      rcases ih with ⟨parts, read, joined⟩
      refine ⟨.char char :: parts, ?_, by simp [joinParts?, joined]⟩
      rw [List.cons_append, stringParts?]
      · simp [read, Nat.not_lt.mpr visible]
      · exact noQuote
      · exact fun equal => noBackslash equal
  | @short letter char _ _ isShort _ ih =>
      rcases ih with ⟨parts, read, joined⟩
      refine ⟨.char char :: parts, ?_, by simp [joinParts?, joined]⟩
      simp only [shortEscapes, List.mem_cons, Prod.mk.injEq, List.not_mem_nil, or_false] at isShort
      rcases isShort with ⟨rfl, rfl⟩ | ⟨rfl, rfl⟩ | ⟨rfl, rfl⟩ | ⟨rfl, rfl⟩ | ⟨rfl, rfl⟩ |
        ⟨rfl, rfl⟩ | ⟨rfl, rfl⟩ | ⟨rfl, rfl⟩ <;>
        simp [stringParts?, escaped?, read]
  | @unit _ _ _ _ code _ _ isUnit noHigh noLow _ ih =>
      rcases ih with ⟨parts, read, joined⟩
      refine ⟨.unit code :: parts, ?_, ?_⟩
      · simp [stringParts?, isUnit, read]
      · rw [joinParts?.eq_def]
        simp [noHigh, noLow, joined]
  | @pair _ _ _ _ _ _ _ _ high low _ _ isUnit isUnit' isHigh isLow _ ih =>
      rcases ih with ⟨parts, read, joined⟩
      refine ⟨.unit high :: .unit low :: parts, ?_, ?_⟩
      · simp [stringParts?, isUnit, isUnit', read]
      · rw [joinParts?.eq_def]
        simp [isHigh, isLow, joined]

theorem IsString.tokens? {text : String} {written : List Char} (isString : IsString text written)
    (rest : List Char) :
    tokens? (written ++ rest) = (Json.tokens? rest).map (.string (some text) :: ·) := by
  rcases isString with ⟨isEscaped⟩
  rcases isEscaped.exists_stringParts? rest with ⟨parts, read, joined⟩
  have solid : isBlankChar '"' = false := rfl
  simp [tokens?_cons, nextToken?, stringToken?, solid, read, joined]

section Around

variable {tree : Json String} (value : ∀ {written rest : List Char}, IsValue tree written →
  EndsNumber rest → tokens? (written ++ rest) = (tokens? rest).map (treeTokens tree ++ ·))
include value

/-- Blanks around a value are passed over. -/
theorem IsElement.tokens? {written rest : List Char} (isElement : IsElement tree written)
    (ends : EndsNumber rest) :
    tokens? (written ++ rest) = (Json.tokens? rest).map (treeTokens tree ++ ·) := by
  rcases isElement with ⟨blankBefore, isValue, blankAfter⟩
  rw [List.append_assoc, List.append_assoc, tokens?_blanks blankBefore,
    value isValue (endsNumber_blanks blankAfter ends), tokens?_blanks blankAfter]

theorem IsMember.tokens? {name : String} {written rest : List Char}
    (isMember : IsMember (name, tree) written) (ends : EndsNumber rest) :
    tokens? (written ++ rest) = (Json.tokens? rest).map
      (.string (some name) :: .colon :: treeTokens tree ++ ·) := by
  rcases isMember with ⟨blankBefore, isString, blankAfter, isElement⟩
  simp only [List.append_assoc, List.cons_append]
  rw [tokens?_blanks blankBefore, isString.tokens?, tokens?_blanks blankAfter,
    tokens?_punctuation .colon rfl, isElement.tokens? value ends]
  simp [Function.comp_def]

end Around

/-- The tokens of items, with commas between them but none in front. -/
def elementTokens : List (Json String) → List Token
  | [] => []
  | item :: items => treeTokens item ++ itemTokens items

/-- The tokens of members, with commas between them but none in front. -/
def fieldTokens : List (String × Json String) → List Token
  | [] => []
  | (name, value) :: members =>
    .string (some name) :: .colon :: (treeTokens value ++ memberTokens members)

theorem treeTokens_array (items : List (Json String)) :
    treeTokens (.array items) = .openArray :: (elementTokens items ++ [.closeArray]) := by
  cases items <;> simp [treeTokens, elementTokens]

theorem treeTokens_object (members : List (String × Json String)) :
    treeTokens (.object members) = .openObject :: (fieldTokens members ++ [.closeObject]) := by
  cases members <;> simp [treeTokens, fieldTokens]

theorem AreElements.itemTokens_eq {items : List (Json String)} {written : List Char}
    (areElements : AreElements items written) :
    itemTokens items = .comma :: elementTokens items := by
  cases areElements <;> simp [itemTokens, elementTokens]

theorem AreMembers.memberTokens_eq {members : List (String × Json String)} {written : List Char}
    (areMembers : AreMembers members written) :
    memberTokens members = .comma :: fieldTokens members := by
  cases areMembers with
  | last isMember => cases isMember; simp [memberTokens, fieldTokens]
  | more isMember => cases isMember; simp [memberTokens, fieldTokens]

mutual

theorem tokens?_of_isValue (tree : Json String) {written rest : List Char}
    (isValue : IsValue tree written) (ends : EndsNumber rest) :
    tokens? (written ++ rest) = (tokens? rest).map (treeTokens tree ++ ·) := by
  cases tree with
  | null =>
      cases isValue
      simp [tokens?_cons, isBlankChar, nextToken?, punctuation?, wordToken?, treeTokens]
  | bool value =>
      cases isValue <;>
        simp [tokens?_cons, isBlankChar, nextToken?, punctuation?, wordToken?, treeTokens]
  | number lexeme =>
      cases isValue with
      | number number => exact tokens?_lexeme (isLexeme_iff.mpr number) ends
  | string text =>
      cases isValue with
      | string isString => exact isString.tokens? rest
  | array items =>
      have close : EndsNumber (']' :: rest) := endsNumber_cons rfl rest
      rw [treeTokens_array]
      cases isValue with
      | emptyArray isBlanks =>
          simp only [List.cons_append, List.append_assoc, List.nil_append]
          rw [tokens?_punctuation .openArray rfl, tokens?_blanks isBlanks,
            tokens?_punctuation .closeArray rfl]
          simp [elementTokens, Function.comp_def]
      | array areElements =>
          simp only [List.cons_append, List.append_assoc, List.nil_append]
          rw [tokens?_punctuation .openArray rfl, tokens?_of_areElements items areElements close,
            tokens?_punctuation .closeArray rfl]
          simp [Function.comp_def]
  | object members =>
      have close : EndsNumber ('}' :: rest) := endsNumber_cons rfl rest
      rw [treeTokens_object]
      cases isValue with
      | emptyObject isBlanks =>
          simp only [List.cons_append, List.append_assoc, List.nil_append]
          rw [tokens?_punctuation .openObject rfl, tokens?_blanks isBlanks,
            tokens?_punctuation .closeObject rfl]
          simp [fieldTokens, Function.comp_def]
      | object areMembers =>
          simp only [List.cons_append, List.append_assoc, List.nil_append]
          rw [tokens?_punctuation .openObject rfl, tokens?_of_areMembers members areMembers close,
            tokens?_punctuation .closeObject rfl]
          simp [Function.comp_def]

theorem tokens?_of_areElements (items : List (Json String)) {written rest : List Char}
    (areElements : AreElements items written) (ends : EndsNumber rest) :
    tokens? (written ++ rest) = (tokens? rest).map (elementTokens items ++ ·) := by
  cases items with
  | nil => cases areElements
  | cons item items =>
      cases areElements with
      | last isElement =>
          rw [isElement.tokens? (tokens?_of_isValue item) ends]
          simp [elementTokens, itemTokens]
      | @more _ _ _ later isElement areElements =>
          have comma : EndsNumber (',' :: (later ++ rest)) := endsNumber_cons rfl _
          rw [List.append_assoc, List.cons_append,
            isElement.tokens? (tokens?_of_isValue item) comma, tokens?_punctuation .comma rfl,
            tokens?_of_areElements items areElements ends]
          simp [elementTokens, areElements.itemTokens_eq, Function.comp_def]

theorem tokens?_of_areMembers (members : List (String × Json String)) {written rest : List Char}
    (areMembers : AreMembers members written) (ends : EndsNumber rest) :
    tokens? (written ++ rest) = (tokens? rest).map (fieldTokens members ++ ·) := by
  cases members with
  | nil => cases areMembers
  | cons member members =>
      rcases member with ⟨name, value⟩
      cases areMembers with
      | last isMember =>
          rw [isMember.tokens? (tokens?_of_isValue value) ends]
          simp [fieldTokens, memberTokens]
      | @more _ _ _ later isMember areMembers =>
          have comma : EndsNumber (',' :: (later ++ rest)) := endsNumber_cons rfl _
          rw [List.append_assoc, List.cons_append,
            isMember.tokens? (tokens?_of_isValue value) comma, tokens?_punctuation .comma rfl,
            tokens?_of_areMembers members areMembers ends]
          simp [fieldTokens, areMembers.memberTokens_eq, Function.comp_def]

end

/-! ## Trees from tokens -/

namespace Reading

theorem put_array (tree : Tree) (items : List Tree) (frames : List Frame) :
    put tree (.array items :: frames) = some ⟨.array (tree :: items) :: frames, .separator⟩ :=
  rfl

theorem put_member (tree : Tree) (members : List (Option String × Tree)) (name : Option String)
    (frames : List Frame) :
    put tree (.member members name :: frames) =
      some ⟨.object ((name, tree) :: members) :: frames, .separator⟩ :=
  rfl

/-- Where a value is expected, an array that may end behaves alike: no tree begins with the end
of an array. -/
theorem run_treeTokens_orClose (tree : Json String) (frames : List Frame) (rest : List Token) :
    Reading.run ⟨frames, .valueOrClose⟩ (treeTokens tree ++ rest) =
      Reading.run ⟨frames, .value⟩ (treeTokens tree ++ rest) := by
  cases tree with
  | null => rfl
  | bool value => rfl
  | number lexeme => rfl
  | string text => rfl
  | array items => cases items <;> rfl
  | object members => cases members <;> rfl

mutual

theorem run_treeTokens (tree : Json String) (frames : List Frame) (rest : List Token) :
    Reading.run ⟨frames, .value⟩ (treeTokens tree ++ rest) =
      (put (tree.map some) frames).bind fun after => after.run rest := by
  cases tree with
  | null => rfl
  | bool value => rfl
  | number lexeme => rfl
  | string text => rfl
  | array items =>
      cases items with
      | nil => rfl
      | cons item items =>
          simp only [treeTokens, List.cons_append, List.append_assoc, List.nil_append, run, step,
            beginValue, Option.bind_some]
          rw [run_treeTokens_orClose, run_treeTokens item, put_array, Option.bind_some,
            run_itemTokens items]
          simp [run, step, close, Json.map, mapItems]
  | object members =>
      cases members with
      | nil => rfl
      | cons member members =>
          rcases member with ⟨name, value⟩
          simp only [treeTokens, List.cons_append, List.append_assoc, List.nil_append, run, step,
            beginValue, takeName, Option.bind_some]
          rw [run_treeTokens value, put_member, Option.bind_some, run_memberTokens members]
          simp [run, step, close, Json.map, mapMembers]

theorem run_itemTokens (items : List (Json String)) (seen : List Tree) (frames : List Frame)
    (rest : List Token) :
    Reading.run ⟨.array seen :: frames, .separator⟩ (itemTokens items ++ rest) =
      Reading.run ⟨.array ((mapItems some items).reverse ++ seen) :: frames, .separator⟩ rest := by
  cases items with
  | nil => rfl
  | cons item items =>
      simp only [itemTokens, List.cons_append, List.append_assoc, run, step, Option.bind_some]
      rw [run_treeTokens item, put_array, Option.bind_some, run_itemTokens items]
      simp [mapItems]

theorem run_memberTokens (members : List (String × Json String))
    (seen : List (Option String × Tree)) (frames : List Frame) (rest : List Token) :
    Reading.run ⟨.object seen :: frames, .separator⟩ (memberTokens members ++ rest) =
      Reading.run ⟨.object ((mapMembers some members).reverse ++ seen) :: frames, .separator⟩
        rest := by
  cases members with
  | nil => rfl
  | cons member members =>
      rcases member with ⟨name, value⟩
      simp only [memberTokens, List.cons_append, List.append_assoc, run, step, takeName,
        Option.bind_some]
      rw [run_treeTokens value, put_member, Option.bind_some, run_memberTokens members]
      simp [mapMembers]

end

end Reading

/-- A text is read as the tree that it stands for by the rules. -/
theorem IsElement.read? {tree : Json String} {written : List Char}
    (isElement : IsElement tree written) : read? written = some (tree.map some) := by
  have ends : EndsNumber [] := by simp [EndsNumber]
  have tokens := isElement.tokens? (tokens?_of_isValue tree) ends
  have reading := Reading.run_treeTokens tree [] []
  simp only [List.append_nil] at tokens reading
  simp [Json.read?, tokens, Json.tokens?, Reading.start, reading, Reading.put, Reading.run,
    Reading.tree?]

/-- A text stands for one tree only. -/
theorem IsElement.unique {tree other : Json String} {written : List Char}
    (isElement : IsElement tree written) (isOther : IsElement other written) : tree = other := by
  have same : tree.map some = other.map some := by
    apply Option.some.inj
    rw [← isElement.read?, ← isOther.read?]
  rw [← map_some_map tree, same, map_some_map]

/-- A written tree is read as the same tree. -/
theorem read?_write {layout : Layout} (isBlank : layout.IsBlank) (depth : Nat)
    {tree : Json String} (lexemes : HasLexemes tree) :
    read? (write layout depth tree) = some (tree.map some) :=
  (isElement_write isBlank depth lexemes).read?

end Microbench.Json
