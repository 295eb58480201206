import Mathlib.Algebra.Ring.Int.Defs
import Mathlib.Data.List.Forall2
import Microbench.Proofs.Settings.Checks
import Microbench.Proofs.Text.Numerals
import Microbench.Proofs.Text.Parts
import Microbench.Runner.Entry

/-!
# Values of keys

A key may have to be there once, or at most once, and its value may have to be read; keys that are
repeated hold pairs or patterns. For each kind of key: what it gives, and all that can be wrong
with it.
-/

namespace Microbench

namespace Runner

variable {α β : Type}

theorem settles_checkAll {check : α → Except SettingError β} {stands : α → β → Prop}
    {wrong : α → SettingError → Prop}
    (settles : ∀ item, Settles (check item) (stands item) (wrong item)) (items : List α) :
    Settles (checkAll check items) (List.Forall₂ stands items) (First (items.map wrong)) := by
  induction items with
  | nil =>
      apply (Settles.of_ok []).congr
      · intro results
        rw [List.forall₂_nil_left_iff]
      · simp
  | cons item items ih =>
      have shape : checkAll check (item :: items) = (check item).bind fun result =>
          (checkAll check items).map (result :: ·) := by
        rw [checkAll]
        cases check item <;> rfl
      rw [shape, List.map_cons]
      apply ((settles item).bind_first fun result _ => ih.map (result :: ·)).congr
      · intro results
        rw [List.forall₂_cons_left_iff]
        constructor
        · rintro ⟨result, own, others, later, rfl⟩
          exact ⟨result, others, own, later, rfl⟩
        · rintro ⟨result, others, own, later, rfl⟩
          exact ⟨result, own, others, later, rfl⟩
      · simp

/-- What can be wrong with a key that is there at most once. -/
inductive KeyFault (key : String) (isRequired : Prop) (wrong : String → SettingError → Prop) :
    List String → SettingError → Prop where
  | missing (required : isRequired) : KeyFault key isRequired wrong [] (.missing key)
  | repeated {values : List String} (several : 1 < values.length) :
    KeyFault key isRequired wrong values (.repeated key values.length)
  | wrong {value : String} {error : SettingError} (isWrong : wrong value error) :
    KeyFault key isRequired wrong [value] error

/-- Nothing for no value, and what stands for the value if there is one. -/
inductive Written (stands : String → α → Prop) : List String → Option α → Prop where
  | missing : Written stands [] none
  | given {value : String} {item : α} (own : stands value item) : Written stands [value] (some item)

section Keys

variable {key : String} {isRequired : Prop} {stands : String → α → Prop}
  {wrong : String → SettingError → Prop} {error : SettingError}

theorem keyFault_nil_iff :
    KeyFault key isRequired wrong [] error ↔ isRequired ∧ error = .missing key := by
  constructor
  · intro fault
    cases fault with
    | missing required => exact ⟨required, rfl⟩
    | repeated several => simp at several
  · rintro ⟨required, rfl⟩
    exact .missing required

theorem keyFault_singleton_iff {value : String} :
    KeyFault key isRequired wrong [value] error ↔ wrong value error := by
  constructor
  · intro fault
    cases fault with
    | repeated several => simp at several
    | wrong isWrong => exact isWrong
  · exact .wrong

theorem keyFault_several_iff {values : List String} (several : 1 < values.length) :
    KeyFault key isRequired wrong values error ↔ error = .repeated key values.length := by
  constructor
  · intro fault
    cases fault with
    | missing => simp at several
    | repeated => rfl
    | wrong => simp at several
  · rintro rfl
    exact .repeated several

theorem written_nil_iff {item : Option α} : Written stands [] item ↔ item = none := by
  constructor
  · intro written
    cases written
    rfl
  · rintro rfl
    exact .missing

theorem written_singleton_iff {value : String} {item : Option α} :
    Written stands [value] item ↔ ∃ own, stands value own ∧ some own = item := by
  constructor
  · intro written
    cases written with
    | given own => exact ⟨_, own, rfl⟩
  · rintro ⟨own, standsFor, rfl⟩
    exact .given standsFor

theorem not_written_several {values : List String} (several : 1 < values.length)
    {item : Option α} : ¬ Written stands values item := by
  intro written
  cases written with
  | missing => simp at several
  | given => simp at several

variable (entries : List Entry) (key) {parse : String → Except SettingError α}

theorem settles_single :
    Settles (single entries key) (fun value => values entries key = [value])
      (KeyFault key True (fun _ _ => False) (values entries key)) := by
  rw [single, single?]
  generalize values entries key = given
  rcases given with _ | ⟨value, _ | ⟨other, given⟩⟩
  · apply (Settles.of_error _).congr
    · simp
    · simp [keyFault_nil_iff]
  · apply (Settles.of_ok _).congr
    · simp [eq_comm]
    · simp [keyFault_singleton_iff, not_first_nil]
  · apply (Settles.of_error _).congr
    · simp
    · simp [keyFault_several_iff]

theorem settles_required (settles : ∀ value, Settles (parse value) (stands value) (wrong value)) :
    Settles ((single entries key).bind parse)
      (fun item => ∃ value, values entries key = [value] ∧ stands value item)
      (KeyFault key True wrong (values entries key)) := by
  apply ((settles_single key entries).bind fun value _ => settles value).congr
  · simp
  · intro error
    generalize values entries key = given
    rcases given with _ | ⟨value, _ | ⟨other, given⟩⟩
    · simp [keyFault_nil_iff]
    · simp [keyFault_singleton_iff]
    · simp [keyFault_several_iff]

theorem settles_parsed? (settles : ∀ value, Settles (parse value) (stands value) (wrong value)) :
    Settles (parsed? entries key parse) (Written stands (values entries key))
      (KeyFault key False wrong (values entries key)) := by
  rw [parsed?, single?]
  generalize values entries key = given
  rcases given with _ | ⟨value, _ | ⟨other, given⟩⟩
  · apply (Settles.of_ok _).congr
    · simp [written_nil_iff]
    · simp [keyFault_nil_iff, not_first_nil]
  · apply ((settles value).map some).congr
    · simp [written_singleton_iff]
    · simp [keyFault_singleton_iff]
  · apply (Settles.of_error _).congr
    · simp [not_written_several]
    · simp [keyFault_several_iff]

end Keys

section Pairs

variable (key : String) (entries : List Entry)

/-- A name and a value in one text, with an equals sign between them. -/
def IsPair (entry : String) (pair : String × String) : Prop :=
  '=' ∉ pair.1.toList ∧ entry = pair.1 ++ "=" ++ pair.2

theorem isPair_iff {entry : String} {pair : String × String} :
    IsPair entry pair ↔
      Text.splitFirst? '=' entry.toList = some (pair.1.toList, pair.2.toList) := by
  rw [Text.splitFirst?_eq_some_iff, IsPair, ← String.toList_inj]
  simp

theorem settles_parsePair (entry : String) :
    Settles (parsePair key entry) (IsPair entry)
      (fun error => '=' ∉ entry.toList ∧ error = .noPair key entry) := by
  rw [parsePair]
  cases found : Text.splitFirst? '=' entry.toList with
  | none =>
      have absent := Text.splitFirst?_eq_none_iff.mp found
      apply (Settles.of_error _).congr
      · simp [isPair_iff, found]
      · simp [absent]
  | some parts =>
      have occurs : '=' ∈ entry.toList := by
        simp [(Text.splitFirst?_eq_some_iff.mp found).2]
      apply (Settles.of_ok _).congr
      · rintro ⟨name, value⟩
        rw [isPair_iff, found, Option.some.injEq, Prod.ext_iff, Prod.ext_iff]
        simp only [← String.toList_inj, String.toList_ofList, eq_comm]
      · simp [occurs, not_first_nil]

/-- What can be wrong with entries of pairs: the first entry that is no pair or, if all are pairs,
the first pair that is wrong. -/
inductive PairsFault (key : String) (wrong : String × String → SettingError → Prop)
    (values : List String) : SettingError → Prop where
  | noPair {error : SettingError}
    (first : First (values.map fun entry error =>
      '=' ∉ entry.toList ∧ error = .noPair key entry) error) : PairsFault key wrong values error
  | wrong {pairs : List (String × String)} {error : SettingError}
    (arePairs : List.Forall₂ IsPair values pairs) (first : First (pairs.map wrong) error) :
    PairsFault key wrong values error

theorem settles_pairs {store : List (String × String) → Except SettingError α}
    {stored : List (String × String) → α → Prop} {wrong : String × String → SettingError → Prop}
    (settles : ∀ pairs, Settles (store pairs) (stored pairs) (First (pairs.map wrong))) :
    Settles ((pairs entries key).bind store)
      (fun item => ∃ pairs, List.Forall₂ IsPair (values entries key) pairs ∧ stored pairs item)
      (PairsFault key wrong (values entries key)) := by
  apply ((settles_checkAll (settles_parsePair key) (values entries key)).bind
    fun pairs _ => settles pairs).congr
  · simp
  · intro error
    constructor
    · rintro (first | ⟨pairs, arePairs, first⟩)
      · exact .noPair first
      · exact .wrong arePairs first
    · intro fault
      cases fault with
      | noPair first => exact Or.inl first
      | wrong arePairs first => exact Or.inr ⟨_, arePairs, first⟩

end Pairs

theorem settles_patterns (kind : String) (entries : List Entry) :
    Settles (patterns entries kind)
      (fun patterns => patterns = values entries kind ∧
        ∀ pattern ∈ values entries kind, Text.isBlank pattern.toList = false)
      (First ((values entries kind).map fun pattern error =>
        Text.isBlank pattern.toList = true ∧ error = .blankPattern kind pattern)) := by
  have own (pattern : String) : Settles (parsePattern kind pattern)
      (fun result => Text.isBlank pattern.toList = false ∧ pattern = result)
      (fun error => Text.isBlank pattern.toList = true ∧ error = .blankPattern kind pattern) :=
    .of_test _ _ _
  apply (settles_checkAll own (values entries kind)).congr
  · intro patterns
    rw [List.forall₂_and_left, List.forall₂_eq_eq_eq, and_comm, eq_comm]
  · simp

section Numbers

variable {value : String} {number : Int}

/-- An integer of sixty-four bits with a sign, perhaps with blanks around it. -/
def IsInteger (value : String) (number : Int) : Prop :=
  Numeral.DenotesInt (Text.trim value.toList) number ∧ -2 ^ 63 ≤ number ∧ number < 2 ^ 63

/-- An integer from `least` to `most`. -/
def IsNumber (least most : Int) (value : String) (number : Nat) : Prop :=
  Numeral.DenotesInt (Text.trim value.toList) number ∧ least ≤ number ∧ (number : Int) ≤ most

/-- What can be wrong with a number. -/
inductive NumberFault (key : String) (least : Least) (most : Int) (value : String) :
    SettingError → Prop where
  | noNumber (strange : ∀ number, ¬ IsInteger value number) :
    NumberFault key least most value (.noNumber key value)
  | outOfRange {number : Int} (isInteger : IsInteger value number)
    (outside : ¬ (least.toInt ≤ number ∧ number ≤ most)) :
    NumberFault key least most value (.outOfRange key value least)

theorem readInteger?_eq_some_iff : readInteger? value = some number ↔ IsInteger value number := by
  have bound : ((0x8000000000000000 : Nat) : Int) = 2 ^ 63 := by decide
  rw [readInteger?, Numeral.readWithin?_eq_some_iff (by decide), bound, IsInteger]

theorem isNumber_iff {least most : Int} (small : most < 2 ^ 63) {number : Nat} :
    IsNumber least most value number ↔
      IsInteger value number ∧ least ≤ number ∧ (number : Int) ≤ most := by
  rw [IsNumber, IsInteger]
  constructor
  · rintro ⟨denotes, above, below⟩
    exact ⟨⟨denotes, by omega, by omega⟩, above, below⟩
  · rintro ⟨isInteger, inside⟩
    exact ⟨isInteger.1, inside⟩

theorem settles_parseNumber (key : String) (least : Least) {most : Int} (small : most < 2 ^ 63)
    (value : String) :
    Settles (parseNumber key least most value) (IsNumber least.toInt most value)
      (NumberFault key least most value) := by
  have natural : 0 ≤ least.toInt := by
    cases least <;> decide
  rw [parseNumber]
  cases read : readInteger? value with
  | none =>
      have strange : ∀ number, ¬ IsInteger value number := by
        simp [← readInteger?_eq_some_iff, read]
      apply (Settles.of_error _).congr
      · simp [isNumber_iff small, strange]
      · intro error
        constructor
        · rintro rfl
          exact .noNumber strange
        · intro fault
          cases fault with
          | noNumber => rfl
          | outOfRange isInteger => exact absurd isInteger (strange _)
  | some number =>
      have isInteger := readInteger?_eq_some_iff.mp read
      -- Reading is a function, so a value is one integer at most.
      have only (other : Int) : IsInteger value other ↔ other = number := by
        rw [← readInteger?_eq_some_iff, read, Option.some.injEq, eq_comm]
      by_cases inside : least.toInt ≤ number ∧ number ≤ most
      · simp only [if_pos inside]
        apply (Settles.of_ok _).congr
        · intro other
          rw [isNumber_iff small, only]
          omega
        · intro error
          simp only [not_first_nil, false_iff]
          intro fault
          cases fault with
          | noNumber strange => exact strange number isInteger
          | outOfRange other outside =>
              rw [(only _).mp other] at outside
              exact outside inside
      · simp only [if_neg inside]
        apply (Settles.of_error _).congr
        · intro other
          rw [isNumber_iff small, only, false_iff]
          omega
        · intro error
          constructor
          · rintro rfl
            exact .outOfRange isInteger inside
          · intro fault
            cases fault with
            | noNumber strange => exact absurd isInteger (strange number)
            | outOfRange => rfl

end Numbers

end Runner

end Microbench
