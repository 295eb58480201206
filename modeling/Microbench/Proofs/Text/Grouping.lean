import Mathlib.Data.Rat.Defs
import Microbench.Proofs.Binary64.Characters
import Microbench.Proofs.Decimal.Digits
import Microbench.Proofs.Text.Parts
import Microbench.Text.Amount

/-!
# Numbers in groups

Commas divide the whole part of a number into groups of three digits, the first of which may be
shorter. Nothing else of the text changes, so the text without its commas is the one without groups.

A group is a digit to the base thousand. In this sense a grouped text denotes a number by itself,
and it is the number that the text without groups denotes.
-/

namespace Microbench

/-- A number as it is written without groups: there may be a sign, there are digits, and there may
be places. -/
structure PlainNumber where
  isNegative : Bool
  whole : List Char
  places? : Option (List Char)
  whole_ne_nil : whole ≠ []
  numeric : ∀ digit ∈ whole ++ places?.getD [], digit.isDigit = true

namespace PlainNumber

variable (number : PlainNumber)

def sign : List Char := if number.isNegative then ['-'] else []

/-- The places with the point before them. -/
def fraction : List Char :=
  match number.places? with
  | none => []
  | some places => '.' :: places

def text : List Char := number.sign ++ number.whole ++ number.fraction

theorem isDigit_whole {digit : Char} (member : digit ∈ number.whole) : digit.isDigit = true :=
  number.numeric digit (List.mem_append_left _ member)

theorem comma_notMem_sign : ',' ∉ number.sign := by
  rw [sign]
  split <;> decide

theorem comma_notMem_whole : ',' ∉ number.whole := by
  intro member
  cases number.isDigit_whole member

theorem comma_notMem_fraction : ',' ∉ number.fraction := by
  intro member
  have numeric := number.numeric
  rw [fraction] at member
  cases shape : number.places? with
  | none => simp [shape] at member
  | some places =>
      rw [shape] at member numeric
      simp only [List.mem_cons, Char.reduceEq, false_or] at member
      cases numeric ',' (by simp [member])

end PlainNumber

namespace Grouping

/-- Groups of three digits, after a first one that may have fewer but is not empty. -/
structure AreGroups (first : List Char) (groups : List (List Char)) : Prop where
  first_ne_nil : first ≠ []
  length_first : first.length ≤ 3
  length_group : ∀ group ∈ groups, group.length = 3

/-- Whether a comma comes first depends on the digits that follow. -/
theorem groupRest_eq {digits : List Char} (solid : digits ≠ []) :
    groupRest digits =
      if digits.length % 3 = 0 then ',' :: groupWhole digits else groupWhole digits := by
  cases digits with
  | nil => exact absurd rfl solid
  | cons digit rest => rfl

theorem length_flatten_mod {groups : List (List Char)}
    (three : ∀ group ∈ groups, group.length = 3) : groups.flatten.length % 3 = 0 := by
  induction groups with
  | nil => rfl
  | cons group groups ih =>
      rw [List.forall_mem_cons] at three
      rw [List.flatten_cons, List.length_append, three.1, Nat.add_mod_left, ih three.2]

/-- The induction goes from the last digit to the first: a digit begins a group of its own when the
group after it is full, and joins this group when it is not. -/
theorem exists_groups_groupWhole {digits : List Char} (solid : digits ≠ []) :
    ∃ first groups, AreGroups first groups ∧ first ++ groups.flatten = digits ∧
      groupWhole digits = [','].intercalate (first :: groups) := by
  induction digits with
  | nil => exact absurd rfl solid
  | cons digit rest ih =>
      rw [groupWhole]
      by_cases none : rest = []
      · subst none
        exact ⟨[digit], [], ⟨by simp, by simp, by simp⟩, rfl, rfl⟩
      · rcases ih none with ⟨first, groups, areGroups, same, grouped⟩
        -- All other groups are full, so the first one decides whether a comma comes next.
        have size : rest.length % 3 = first.length % 3 := by
          have full := length_flatten_mod areGroups.length_group
          rw [← same, List.length_append]
          omega
        have some := List.length_pos_iff.mpr areGroups.first_ne_nil
        have short := areGroups.length_first
        rw [groupRest_eq none, grouped]
        by_cases full : rest.length % 3 = 0
        · refine ⟨[digit], first :: groups, ⟨by simp, by simp, ?_⟩, ?_, ?_⟩
          · rw [List.forall_mem_cons]
            exact ⟨by omega, areGroups.length_group⟩
          · rw [List.flatten_cons, same, List.singleton_append]
          · rw [if_pos full, List.intercalate_cons_cons]
            rfl
        · refine ⟨digit :: first, groups, ⟨by simp, ?_, areGroups.length_group⟩, ?_, ?_⟩
          · rw [List.length_cons]
            omega
          · rw [List.cons_append, same]
          · rw [if_neg full, List.intercalate_cons_cons_left]

theorem filter_of_notMem {text : List Char} (absent : ',' ∉ text) :
    text.filter (· ≠ ',') = text := by
  rw [List.filter_eq_self]
  intro char member
  simpa using ne_of_mem_of_not_mem member absent

/-- Commas are put between the groups, and nowhere else. -/
theorem filter_intercalate {parts : List (List Char)} (absent : ∀ part ∈ parts, ',' ∉ part) :
    ([','].intercalate parts).filter (· ≠ ',') = parts.flatten := by
  induction parts with
  | nil => rfl
  | cons part parts ih =>
      rw [List.forall_mem_cons] at absent
      cases parts with
      | nil => simpa using filter_of_notMem absent.1
      | cons next parts =>
          rw [List.intercalate_cons_cons, List.filter_append, List.filter_append, ih absent.2,
            filter_of_notMem absent.1, List.flatten_cons]
          simp

/-! ## Sign and places -/

/-- Digits that may have commas between them. -/
structure IsWhole (whole : List Char) : Prop where
  solid : whole ≠ []
  chars : ∀ char ∈ whole, char.isDigit = true ∨ char = ','

section Parts

variable {number : PlainNumber} {whole : List Char}

theorem isWhole_whole (number : PlainNumber) : IsWhole number.whole :=
  ⟨number.whole_ne_nil, fun _ member => Or.inl (number.isDigit_whole member)⟩

theorem isWhole_groups {first : List Char} {groups : List (List Char)}
    (areGroups : AreGroups first groups) (same : first ++ groups.flatten = number.whole) :
    IsWhole ([','].intercalate (first :: groups)) where
  solid := by
    rcases List.exists_cons_of_ne_nil areGroups.first_ne_nil with ⟨digit, rest, rfl⟩
    rw [List.intercalate_cons_cons_left]
    exact List.cons_ne_nil _ _
  chars := by
    intro char member
    rw [Text.mem_intercalate_iff] at member
    rcases member with ⟨group, inGroups, inGroup⟩ | ⟨comma, -⟩
    · left
      apply number.isDigit_whole
      rw [← same, ← List.flatten_cons, List.mem_flatten]
      exact ⟨group, inGroups, inGroup⟩
    · exact Or.inr (List.mem_singleton.mp comma)

theorem IsWhole.ne_point (isWhole : IsWhole whole) {char : Char} (member : char ∈ whole) :
    (char != '.') = true := by
  rw [bne_iff_ne]
  rintro rfl
  rcases isWhole.chars _ member with digit | comma
  · cases digit
  · cases comma

/-- A whole part does not begin with a sign, whatever follows it. -/
theorem IsWhole.ne_minus (isWhole : IsWhole whole) (later rest : List Char) :
    whole ++ later ≠ '-' :: rest := by
  rcases List.exists_cons_of_ne_nil isWhole.solid with ⟨char, others, rfl⟩
  intro same
  cases same
  rcases isWhole.chars '-' List.mem_cons_self with digit | comma
  · cases digit
  · cases comma

theorem takeWhile_point (isWhole : IsWhole whole) :
    (whole ++ number.fraction).takeWhile (· != '.') = whole := by
  rw [List.takeWhile_append_of_pos fun _ => isWhole.ne_point, PlainNumber.fraction]
  cases number.places? <;> simp

theorem dropWhile_point (isWhole : IsWhole whole) :
    (whole ++ number.fraction).dropWhile (· != '.') = number.fraction := by
  rw [List.dropWhile_append_of_pos fun _ => isWhole.ne_point, PlainNumber.fraction]
  cases number.places? <;> simp

/-- Sign and places stay as they are. -/
theorem thousands_parts (isWhole : IsWhole whole) :
    thousands (number.sign ++ whole ++ number.fraction) =
      number.sign ++ groupWhole whole ++ number.fraction := by
  have unsigned : groupUnsigned (whole ++ number.fraction) =
      groupWhole whole ++ number.fraction := by
    rw [groupUnsigned, takeWhile_point isWhole, dropWhile_point isWhole]
  rw [PlainNumber.sign, List.append_assoc, List.append_assoc, ← unsigned]
  cases number.isNegative with
  | true => rfl
  | false =>
      simp only [Bool.false_eq_true, if_false, List.nil_append]
      unfold thousands
      split
      · rename_i rest same
        exact absurd same (isWhole.ne_minus _ rest)
      · rfl

end Parts

/-! ## The number that a text denotes -/

/-- The number of a whole part. What stands between commas is a digit to the base thousand; without
commas there is one such digit. -/
def wholeNumber (whole : List Char) : Nat :=
  (Text.splitAll ',' whole).foldl
    (fun number group => 1000 * number + Nat.ofDigitChars 10 group 0) 0

def unsignedNumber (text : List Char) : ℚ :=
  let places := (text.dropWhile (· != '.')).tail
  wholeNumber (text.takeWhile (· != '.')) + Nat.ofDigitChars 10 places 0 / 10 ^ places.length

/-- The number that a text denotes, with groups or without. -/
def denoted : List Char → ℚ
  | '-' :: text => -unsignedNumber text
  | text => unsignedNumber text

theorem foldl_groups {groups : List (List Char)} (three : ∀ group ∈ groups, group.length = 3)
    (start : Nat) :
    groups.foldl (fun number group => 1000 * number + Nat.ofDigitChars 10 group 0) start =
      Nat.ofDigitChars 10 groups.flatten start := by
  induction groups generalizing start with
  | nil => simp
  | cons group groups ih =>
      rw [List.forall_mem_cons] at three
      have value :
          Nat.ofDigitChars 10 group start = 1000 * start + Nat.ofDigitChars 10 group 0 := by
        rw [Nat.ofDigitChars_eq_ofDigitChars_zero, three.1]
      rw [List.foldl_cons, ih three.2, List.flatten_cons, Nat.ofDigitChars_append, value]

theorem wholeNumber_whole (number : PlainNumber) :
    wholeNumber number.whole = Nat.ofDigitChars 10 number.whole 0 := by
  rw [wholeNumber, Text.splitAll_of_notMem number.comma_notMem_whole, List.foldl_cons,
    List.foldl_nil, Nat.mul_zero, Nat.zero_add]

/-- Groups as digits to the base thousand make the same number as their digits to the base ten. -/
theorem wholeNumber_groups {first : List Char} {groups : List (List Char)}
    (areGroups : AreGroups first groups) (absent : ∀ group ∈ first :: groups, ',' ∉ group) :
    wholeNumber ([','].intercalate (first :: groups)) =
      Nat.ofDigitChars 10 (first ++ groups.flatten) 0 := by
  rw [wholeNumber, Text.splitAll_intercalate (List.cons_ne_nil _ _) absent, List.foldl_cons,
    foldl_groups areGroups.length_group, Nat.ofDigitChars_append, Nat.mul_zero, Nat.zero_add]

/-- With the same sign and places, equal whole parts make equal numbers. -/
theorem denoted_congr {number : PlainNumber} {whole other : List Char} (isWhole : IsWhole whole)
    (otherIsWhole : IsWhole other) (same : wholeNumber whole = wholeNumber other) :
    denoted (number.sign ++ whole ++ number.fraction) =
      denoted (number.sign ++ other ++ number.fraction) := by
  have unsigned : unsignedNumber (whole ++ number.fraction) =
      unsignedNumber (other ++ number.fraction) := by
    rw [unsignedNumber, unsignedNumber, takeWhile_point isWhole, takeWhile_point otherIsWhole,
      dropWhile_point isWhole, dropWhile_point otherIsWhole, same]
  rw [PlainNumber.sign, List.append_assoc, List.append_assoc]
  cases number.isNegative with
  | true => exact congrArg Neg.neg unsigned
  | false =>
      have bare {text : List Char} (isWhole : IsWhole text) :
          denoted (text ++ number.fraction) = unsignedNumber (text ++ number.fraction) := by
        unfold denoted
        split
        · rename_i rest minus
          exact absurd minus (isWhole.ne_minus _ rest)
        · rfl
      exact (bare isWhole).trans (unsigned.trans (bare otherIsWhole).symm)

/-- The text of a number in groups: the groups have the digits of the whole part, commas are between
them, and the number is the same. -/
theorem exists_groups_thousands (number : PlainNumber) :
    ∃ first groups, AreGroups first groups ∧ first ++ groups.flatten = number.whole ∧
      thousands number.text =
        number.sign ++ [','].intercalate (first :: groups) ++ number.fraction ∧
      (thousands number.text).filter (· ≠ ',') = number.text ∧
      denoted (thousands number.text) = denoted number.text := by
  rcases exists_groups_groupWhole number.whole_ne_nil with
    ⟨first, groups, areGroups, same, grouped⟩
  have absent : ∀ group ∈ first :: groups, ',' ∉ group := by
    intro group member comma
    apply number.comma_notMem_whole
    rw [← same, ← List.flatten_cons, List.mem_flatten]
    exact ⟨group, member, comma⟩
  have text : thousands number.text =
      number.sign ++ [','].intercalate (first :: groups) ++ number.fraction := by
    rw [PlainNumber.text, thousands_parts (isWhole_whole number), grouped]
  refine ⟨first, groups, areGroups, same, text, ?_, ?_⟩
  · rw [text, List.filter_append, List.filter_append, filter_intercalate absent,
      filter_of_notMem number.comma_notMem_sign, filter_of_notMem number.comma_notMem_fraction,
      List.flatten_cons, same, PlainNumber.text]
  · rw [text, PlainNumber.text]
    apply denoted_congr (isWhole_groups areGroups same) (isWhole_whole number)
    rw [wholeNumber_groups areGroups absent, same, wholeNumber_whole]

example : denoted (thousands "-1234.5".toList) = -2469 / 2 := by cbv

end Grouping

/-! ## Amounts -/

/-- A finite datum is written as a number, with as many places as it should have. -/
theorem Binary64.exists_plainNumber {datum : Binary64} (finite : datum.isFinite = true)
    (places : Nat) :
    ∃ number : PlainNumber, datum.fixed places = number.text ∧
      (number.places?.getD []).length = places := by
  have written : datum.fixed places = datum.signText ++
      Decimal.positional [] ⟨datum.roundedToPlaces places, -places⟩ := by
    rw [fixed, isNaN_of_isFinite finite, isInfinite_of_isFinite finite]
    rfl
  rcases Nat.eq_zero_or_pos places with rfl | positive
  · refine ⟨⟨datum.isNegative, Decimal.digits (datum.roundedToPlaces 0), none,
      Decimal.digits_ne_nil _, ?_⟩, ?_, rfl⟩
    · intro digit member
      rw [Option.getD_none, List.append_nil] at member
      exact Decimal.isDigit_of_mem_digits member
    · rw [written]
      simp [Decimal.positional, PlainNumber.text, PlainNumber.sign, PlainNumber.fraction, signText]
  · have negative : (⟨datum.roundedToPlaces places, -places⟩ : Decimal).exponent < 0 := by
      simpa using positive
    rcases Decimal.exists_hasPlaces negative with ⟨padding, whole, fraction, hasPlaces⟩
    refine ⟨⟨datum.isNegative, whole, some fraction, hasPlaces.whole_ne_nil, ?_⟩, ?_, ?_⟩
    · intro digit member
      rw [Option.getD_some, ← hasPlaces.digits, List.mem_append, List.mem_replicate] at member
      rcases member with ⟨-, rfl⟩ | inDigits
      · rfl
      · exact Decimal.isDigit_of_mem_digits inDigits
    · rw [written, hasPlaces.written]
      simp [PlainNumber.text, PlainNumber.sign, PlainNumber.fraction, signText]
    · simpa using hasPlaces.count

namespace Amount

variable (value : Float) (places : Nat)

theorem toList_fixed_false :
    (fixed value places false).toList = (Binary64.ofFloat value).fixed places := by
  simp [fixed]

theorem toList_fixed_true :
    (fixed value places true).toList =
      if (Binary64.ofFloat value).isFinite then
        Grouping.thousands ((Binary64.ofFloat value).fixed places)
      else (Binary64.ofFloat value).fixed places := by
  simp [fixed]

/-- A number is divided into groups without any other change, and an amount is written in groups as
the number that it is without them. -/
theorem groups_only_divide (number : PlainNumber) :
    (∃ first groups, Grouping.AreGroups first groups ∧ first ++ groups.flatten = number.whole ∧
        Grouping.thousands number.text =
          number.sign ++ [','].intercalate (first :: groups) ++ number.fraction ∧
        (Grouping.thousands number.text).filter (· ≠ ',') = number.text) ∧
      ((Binary64.ofFloat value).isFinite = true → ∃ written : PlainNumber,
        (written.places?.getD []).length = places ∧
        (fixed value places false).toList = written.text ∧
        (fixed value places true).toList = Grouping.thousands written.text) ∧
      (fixed value places true).toList.filter (· ≠ ',') = (fixed value places false).toList ∧
      Grouping.denoted (fixed value places true).toList =
        Grouping.denoted (fixed value places false).toList := by
  refine ⟨?_, ?_, ?_⟩
  · rcases Grouping.exists_groups_thousands number with
      ⟨first, groups, areGroups, same, text, back, -⟩
    exact ⟨first, groups, areGroups, same, text, back⟩
  · intro finite
    rcases Binary64.exists_plainNumber finite places with ⟨written, text, count⟩
    refine ⟨written, count, ?_, ?_⟩
    · rw [toList_fixed_false, text]
    · rw [toList_fixed_true, if_pos finite, text]
  · rw [toList_fixed_false, toList_fixed_true]
    split
    · rename_i finite
      rcases Binary64.exists_plainNumber finite places with ⟨written, text, -⟩
      rcases Grouping.exists_groups_thousands written with ⟨_, _, -, -, -, back, sameNumber⟩
      rw [text]
      exact ⟨back, sameNumber⟩
    · refine ⟨Grouping.filter_of_notMem ?_, rfl⟩
      intro comma
      rcases Binary64.isPlainChar_of_mem_fixed comma with digit | other
      · cases digit
      · simp at other

end Amount

namespace Demonstration

def overdrawn : PlainNumber :=
  ⟨true, "1234567".toList, some "50".toList, by decide, List.all_eq_true.mp (by decide)⟩

theorem groups_only_divide_overdrawn :
    (Binary64.ofFloat (-1234567.5)).isFinite = true ∧
      (∃ first groups, Grouping.AreGroups first groups ∧ first ++ groups.flatten = overdrawn.whole ∧
        Grouping.thousands overdrawn.text =
          overdrawn.sign ++ [','].intercalate (first :: groups) ++ overdrawn.fraction) ∧
      ∃ written : PlainNumber, (written.places?.getD []).length = 2 ∧
        (Amount.fixed (-1234567.5) 2 false).toList = written.text ∧
        (Amount.fixed (-1234567.5) 2 true).toList = Grouping.thousands written.text := by
  have finite : (Binary64.ofFloat (-1234567.5)).isFinite = true := by decide +kernel
  rcases Amount.groups_only_divide (-1234567.5) 2 overdrawn with ⟨divided, written, -⟩
  rcases divided with ⟨first, groups, areGroups, same, text, -⟩
  exact ⟨finite, ⟨first, groups, areGroups, same, text⟩, written finite⟩

example : Amount.fixed (-1234567.5) 2 true = "-1,234,567.50" := by decide +kernel

end Demonstration

end Microbench
