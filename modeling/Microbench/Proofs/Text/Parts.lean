import Microbench.Text.Blank
import Microbench.Text.Split

/-!
# Texts put together from parts

A text that was put together from parts is taken apart into the same parts again, as long as no
part has the separator in it. For lines no part may end with a carriage return either, since the
end of a line would take it away.
-/

namespace Microbench.Text

theorem splitAll_of_notMem {separator : Char} {part : List Char} (absent : separator ∉ part) :
    splitAll separator part = [part] := by
  induction part with
  | nil => rfl
  | cons char part ih =>
      simp only [List.mem_cons, not_or] at absent
      rw [splitAll, if_neg (fun equal => absent.1 equal.symm), ih absent.2]

theorem splitAll_append {separator : Char} {part : List Char} (absent : separator ∉ part)
    (rest : List Char) :
    splitAll separator (part ++ separator :: rest) = part :: splitAll separator rest := by
  induction part with
  | nil => rw [List.nil_append, splitAll, if_pos rfl]
  | cons char part ih =>
      simp only [List.mem_cons, not_or] at absent
      rw [List.cons_append, splitAll, if_neg (fun equal => absent.1 equal.symm), ih absent.2]

theorem splitAll_snoc {separator : Char} {part : List Char} (absent : separator ∉ part)
    (text : List Char) :
    splitAll separator (text ++ separator :: part) = splitAll separator text ++ [part] := by
  induction text with
  | nil => simp [splitAll, splitAll_of_notMem absent]
  | cons char text ih =>
      rw [List.cons_append, splitAll, splitAll, ih]
      split
      · rfl
      · rcases List.exists_cons_of_ne_nil (splitAll_ne_nil separator text) with
          ⟨first, parts, shape⟩
        rw [shape]
        rfl

theorem length_splitAll (separator : Char) (text : List Char) :
    (splitAll separator text).length = text.count separator + 1 := by
  induction text with
  | nil => rfl
  | cons char text ih =>
      rw [splitAll]
      by_cases same : char = separator
      · simp [same, ih]
      · rcases List.exists_cons_of_ne_nil (splitAll_ne_nil separator text) with
          ⟨part, parts, shape⟩
        rw [shape, List.length_cons] at ih
        simp [same, shape, ih]

theorem notMem_of_mem_splitAll {separator : Char} {text part : List Char}
    (member : part ∈ splitAll separator text) : separator ∉ part := by
  induction text generalizing part with
  | nil => simp_all [splitAll]
  | cons char text ih =>
      rcases List.exists_cons_of_ne_nil (splitAll_ne_nil separator text) with
        ⟨first, parts, shape⟩
      simp only [shape, List.mem_cons] at ih
      by_cases same : char = separator
      · simp only [splitAll, same, if_true, shape, List.mem_cons] at member
        rcases member with rfl | later
        · simp
        · exact ih later
      · simp only [splitAll, same, if_false, shape, List.mem_cons] at member
        rcases member with rfl | later
        · simp [Ne.symm same, ih (Or.inl rfl)]
        · exact ih (Or.inr later)

theorem mem_intercalate_iff {char : Char} {separator : List Char} {parts : List (List Char)} :
    char ∈ separator.intercalate parts ↔
      (∃ part ∈ parts, char ∈ part) ∨ char ∈ separator ∧ 1 < parts.length := by
  induction parts with
  | nil => simp
  | cons part parts ih =>
      cases parts with
      | nil => simp
      | cons next parts =>
          have first : (∃ other ∈ part :: next :: parts, char ∈ other) ↔
              char ∈ part ∨ ∃ other ∈ next :: parts, char ∈ other := by
            simp
          have several : 1 < (part :: next :: parts).length := by simp
          rw [List.intercalate_cons_cons, List.mem_append, List.mem_append, ih, first]
          simp only [several, and_true]
          constructor
          · rintro ((own | between) | later | ⟨between, -⟩)
            · exact Or.inl (Or.inl own)
            · exact Or.inr between
            · exact Or.inl (Or.inr later)
            · exact Or.inr between
          · rintro ((own | later) | between)
            · exact Or.inl (Or.inl own)
            · exact Or.inr (Or.inl later)
            · exact Or.inl (Or.inr between)

theorem mem_of_mem_splitAll {separator char : Char} {text part : List Char}
    (member : part ∈ splitAll separator text) (inPart : char ∈ part) : char ∈ text := by
  rw [← intercalate_splitAll separator text, mem_intercalate_iff]
  exact Or.inl ⟨part, member, inPart⟩

theorem splitAll_intercalate {separator : Char} {parts : List (List Char)} (some : parts ≠ [])
    (absent : ∀ part ∈ parts, separator ∉ part) :
    splitAll separator ([separator].intercalate parts) = parts := by
  induction parts with
  | nil => exact absurd rfl some
  | cons part parts ih =>
      rw [List.forall_mem_cons] at absent
      cases parts with
      | nil => simp [splitAll_of_notMem absent.1]
      | cons next parts =>
          rw [List.intercalate_cons_cons, List.append_assoc, List.singleton_append,
            splitAll_append absent.1, ih (by simp) absent.2]

/-- Parts with something in them are seen in the text that they make up. -/
theorem eq_of_intercalate_eq {separator : Char} {parts others : List (List Char)}
    (absent : ∀ part ∈ parts, separator ∉ part) (solid : [] ∉ parts)
    (otherAbsent : ∀ part ∈ others, separator ∉ part) (otherSolid : [] ∉ others)
    (same : [separator].intercalate parts = [separator].intercalate others) : parts = others := by
  have back {parts : List (List Char)} (absent : ∀ part ∈ parts, separator ∉ part)
      (solid : [] ∉ parts) :
      (splitAll separator ([separator].intercalate parts)).filter (!·.isEmpty) = parts := by
    cases parts with
    | nil => rfl
    | cons part parts =>
        rw [splitAll_intercalate (by simp) absent, List.filter_eq_self]
        intro other member
        simpa using ne_of_mem_of_not_mem member solid
  rw [← back absent solid, same, back otherAbsent otherSolid]

/-- Texts are told from each other by what ends them. -/
theorem splitAll_flatMap {separator : Char} {parts : List (List Char)}
    (absent : ∀ part ∈ parts, separator ∉ part) :
    splitAll separator (parts.flatMap fun part => part ++ [separator]) = parts ++ [[]] := by
  induction parts with
  | nil => rfl
  | cons part parts ih =>
      rw [List.forall_mem_cons] at absent
      rw [List.flatMap_cons, List.append_assoc, List.singleton_append, splitAll_append absent.1,
        ih absent.2]
      rfl

/-- A text that does not break a line. -/
def IsUnbroken (text : String) : Prop := '\n' ∉ text.toList

instance (text : String) : Decidable (IsUnbroken text) := by
  rw [IsUnbroken]
  infer_instance

theorem isUnbroken_append {text other : String} :
    IsUnbroken (text ++ other) ↔ IsUnbroken text ∧ IsUnbroken other := by
  simp [IsUnbroken]

theorem IsUnbroken.of_subset {text other : String} (unbroken : IsUnbroken text)
    (inside : other.toList ⊆ text.toList) : IsUnbroken other :=
  fun feed => unbroken (inside feed)

/-- A text that can stand in one line. -/
def IsLine (text : List Char) : Prop :=
  '\n' ∉ text ∧ text.getLast? ≠ some '\r'

theorem isLine_nil : IsLine [] := by
  constructor
  · simp
  · simp

theorem lines_append {line : List Char} (isLine : IsLine line) (rest : List Char) :
    lines (line ++ '\n' :: rest) = line :: lines rest := by
  rcases isLine with ⟨noFeed, noReturn⟩
  rw [lines, lines, splitAll_append noFeed]
  cases parts : splitAll '\n' rest with
  | nil => exact absurd parts (splitAll_ne_nil '\n' rest)
  | cons part parts => rw [linesOfParts, withoutReturn, if_neg noReturn]; simp

theorem lines_flatMap {texts : List (List Char)} (areLines : ∀ text ∈ texts, IsLine text) :
    lines (texts.flatMap fun text => text ++ ['\n']) = texts := by
  induction texts with
  | nil => rfl
  | cons text texts ih =>
      rw [List.flatMap_cons, List.append_assoc, List.singleton_append,
        lines_append (areLines text (by simp))]
      congr 1
      apply ih
      intro other member
      exact areLines other (by simp [member])

/-- The last line needs no line feed behind it. -/
theorem lines_intercalate {texts : List (List Char)} (areLines : ∀ text ∈ texts, IsLine text)
    (solid : ∀ text ∈ texts, text ≠ []) : lines (['\n'].intercalate texts) = texts := by
  induction texts with
  | nil => rfl
  | cons text texts ih =>
      rw [List.forall_mem_cons] at areLines solid
      have later := ih areLines.2 solid.2
      cases texts with
      | nil =>
          rw [List.intercalate_singleton, lines, splitAll_of_notMem areLines.1.1, linesOfParts,
            List.isEmpty_eq_false_iff.mpr solid.1]
          rfl
      | cons next texts =>
          rw [List.intercalate_cons_cons, List.append_assoc, List.singleton_append,
            lines_append areLines.1, later]

section Last

variable {first : Char} {mark : List Char}

theorem splitAtLast?_of_notMem {text : List Char} (absent : first ∉ text) :
    splitAtLast? (first :: mark) text = none := by
  induction text with
  | nil => rfl
  | cons char text ih =>
      simp only [List.mem_cons, not_or] at absent
      rw [splitAtLast?, ih absent.2]
      simp [absent.1]

theorem splitAtLast?_append (before : List Char) {text : List Char}
    {parts : List Char × List Char} (found : splitAtLast? mark text = some parts) :
    splitAtLast? mark (before ++ text) = some (before ++ parts.1, parts.2) := by
  induction before with
  | nil => exact found
  | cons char before ih => rw [List.cons_append, splitAtLast?, ih]; rfl

theorem splitAtLast?_mark {after : List Char} (absent : first ∉ mark ++ after) :
    splitAtLast? (first :: mark) (first :: mark ++ after) = some ([], after) := by
  rw [List.cons_append, splitAtLast?, splitAtLast?_of_notMem absent]
  simp

end Last

section First

variable {mark : List Char}

theorem splitAtFirst?_eq_some {text before after : List Char}
    (found : splitAtFirst? mark text = some (before, after)) : text = before ++ mark ++ after := by
  induction text generalizing before after with
  | nil =>
      rw [splitAtFirst?] at found
      split at found
      · rename_i none
        cases found
        simpa using none
      · cases found
  | cons char text ih =>
      rw [splitAtFirst?] at found
      split at found
      · rename_i leading
        cases found
        rw [List.nil_append]
        exact (List.prefix_iff_eq_append.mp (List.isPrefixOf_iff_prefix.mp leading)).symm
      · rw [Option.map_eq_some_iff] at found
        rcases found with ⟨parts, partsFound, equal⟩
        cases equal
        rw [ih partsFound]
        rfl

/-- A text that occurs is found, and not after the place where it occurs. -/
theorem splitAtFirst?_of_occurs (mark earlier later : List Char) :
    ∃ before after, splitAtFirst? mark (earlier ++ mark ++ later) = some (before, after) ∧
      before.length ≤ earlier.length := by
  induction earlier with
  | nil =>
      rw [List.nil_append]
      cases text : mark ++ later with
      | nil =>
          rw [List.append_eq_nil_iff] at text
          refine ⟨[], [], ?_, by simp⟩
          rw [text.1]
          rfl
      | cons char rest =>
          have leading : mark.isPrefixOf (char :: rest) = true := by
            rw [← text, List.isPrefixOf_iff_prefix]
            exact List.prefix_append mark later
          refine ⟨[], (char :: rest).drop mark.length, ?_, by simp⟩
          rw [splitAtFirst?, if_pos leading]
  | cons char earlier ih =>
      rcases ih with ⟨before, after, found, short⟩
      rw [List.cons_append, List.cons_append, splitAtFirst?]
      split
      · exact ⟨[], _, rfl, by simp⟩
      · refine ⟨char :: before, after, ?_, by simpa using short⟩
        rw [found]
        rfl

theorem splitAtFirst?_append_of_notMem {first : Char} {text : List Char} (absent : first ∉ text)
    (mark rest : List Char) :
    splitAtFirst? (first :: mark) (text ++ (first :: mark ++ rest)) = some (text, rest) := by
  induction text with
  | nil => simp [splitAtFirst?]
  | cons char text ih =>
      simp only [List.mem_cons, not_or] at absent
      have later :
          (first :: mark).isPrefixOf (char :: (text ++ (first :: mark ++ rest))) = false := by
        simp [List.isPrefixOf, absent.1]
      rw [List.cons_append, splitAtFirst?, later, ih absent.2]
      rfl

end First

section FirstSeparator

variable {separator : Char}

theorem splitFirst?_eq_none_iff {text : List Char} :
    splitFirst? separator text = none ↔ separator ∉ text := by
  induction text with
  | nil => simp [splitFirst?]
  | cons char text ih =>
      rw [splitFirst?]
      by_cases same : char = separator
      · simp [same]
      · simp [same, ih, Ne.symm same]

theorem splitFirst?_eq_some_iff {text before after : List Char} :
    splitFirst? separator text = some (before, after) ↔
      separator ∉ before ∧ text = before ++ separator :: after := by
  induction text generalizing before with
  | nil => simp [splitFirst?]
  | cons char text ih =>
      rw [splitFirst?]
      by_cases same : char = separator
      · subst same
        cases before with
        | nil => simp
        | cons first before =>
            simp only [if_true, Option.some.injEq, Prod.mk.injEq, List.nil_eq, reduceCtorEq,
              false_and, List.mem_cons, not_or, List.cons_append, List.cons.injEq, false_iff]
            rintro ⟨⟨different, -⟩, equal, -⟩
            exact different equal
      · rw [if_neg same, Option.map_eq_some_iff]
        cases before with
        | nil => simp [same]
        | cons first before =>
            constructor
            · rintro ⟨⟨earlier, later⟩, found, equal⟩
              cases equal
              rcases ih.mp found with ⟨absent, rfl⟩
              exact ⟨by simp [absent, Ne.symm same], rfl⟩
            · rintro ⟨absent, equal⟩
              cases equal
              rw [List.mem_cons, not_or] at absent
              exact ⟨(before, after), ih.mpr ⟨absent.2, rfl⟩, rfl⟩

end FirstSeparator

section LastSeparator

variable {separator : Char}

theorem splitLast?_of_notMem {text : List Char} (absent : separator ∉ text) :
    splitLast? separator text = none := by
  induction text with
  | nil => rfl
  | cons char text ih =>
      simp only [List.mem_cons, not_or] at absent
      rw [splitLast?, ih absent.2]
      exact if_neg fun equal => absent.1 equal.symm

theorem splitLast?_eq_some {text before after : List Char}
    (found : splitLast? separator text = some (before, after)) :
    text = before ++ separator :: after := by
  induction text generalizing before after with
  | nil => cases found
  | cons char text ih =>
      rw [splitLast?] at found
      split at found
      · rename_i parts partsFound
        cases found
        rw [ih partsFound]
        rfl
      · split at found
        · rename_i same
          cases found
          rw [same, List.nil_append]
        · cases found

/-- What follows the last separator does not matter for what stands before it. -/
theorem splitLast?_append {tail : List Char} (absent : separator ∉ tail) (text : List Char) :
    splitLast? separator (text ++ tail) =
      (splitLast? separator text).map fun parts => (parts.1, parts.2 ++ tail) := by
  induction text with
  | nil =>
      rw [List.nil_append, splitLast?_of_notMem absent]
      rfl
  | cons char text ih =>
      rw [List.cons_append, splitLast?, ih, splitLast?]
      cases splitLast? separator text with
      | some parts => rfl
      | none =>
          simp only [Option.map_none]
          split
          · rfl
          · rfl

theorem splitLast?_last {tail : List Char} (absent : separator ∉ tail) (text : List Char) :
    splitLast? separator (text ++ separator :: tail) = some (text, tail) := by
  induction text with
  | nil => simp [splitLast?, splitLast?_of_notMem absent]
  | cons char text ih => simp [splitLast?, ih]

theorem exists_last_of_mem {text : List Char} (member : separator ∈ text) :
    ∃ before after, text = before ++ separator :: after ∧ separator ∉ after := by
  rcases List.eq_append_cons_of_mem (List.mem_reverse.mpr member) with
    ⟨after, before, shape, absent⟩
  refine ⟨before.reverse, after.reverse, ?_, ?_⟩
  · rw [← List.reverse_reverse text, shape]
    simp
  · rw [List.mem_reverse]
    exact absent

/-- The last separator is not before any other. -/
theorem splitLast?_of_occurs (separator : Char) (earlier later : List Char) :
    ∃ before after, splitLast? separator (earlier ++ separator :: later) = some (before, after) ∧
      earlier <+: before := by
  induction earlier with
  | nil =>
      rw [List.nil_append, splitLast?]
      cases splitLast? separator later with
      | some parts => exact ⟨separator :: parts.1, parts.2, rfl, List.nil_prefix⟩
      | none => exact ⟨[], later, if_pos rfl, List.nil_prefix⟩
  | cons char earlier ih =>
      rcases ih with ⟨before, after, found, leading⟩
      refine ⟨char :: before, after, ?_, ?_⟩
      · rw [List.cons_append, splitLast?, found]
      · exact List.cons_prefix_cons.mpr ⟨rfl, leading⟩

end LastSeparator

section Marks

variable {mark : String} {texts : List String} {text other : String}

/-- With a mark after it, a text does not begin like another one. -/
def MarksEnd (mark text other : String) : Prop :=
  (text ++ mark).toList <+: (other ++ mark).toList → text = other

instance : Decidable (MarksEnd mark text other) :=
  inferInstanceAs (Decidable ((text ++ mark).toList <+: (other ++ mark).toList → text = other))

/-- A mark shows where any of the texts ends. -/
def MarksEnds (mark : String) (texts : List String) : Prop :=
  ∀ text ∈ texts, ∀ other ∈ texts, MarksEnd mark text other

instance : Decidable (MarksEnds mark texts) :=
  inferInstanceAs (Decidable (∀ text ∈ texts, ∀ other ∈ texts, MarksEnd mark text other))

/-- Marked texts are told from whatever comes after them. -/
theorem eq_of_marked (marks : MarksEnd mark text other) (otherMarks : MarksEnd mark other text)
    {rest otherRest : String} (same : text ++ mark ++ rest = other ++ mark ++ otherRest) :
    text = other ∧ rest = otherRest := by
  have leading : (text ++ mark).toList <+: (text ++ mark ++ rest).toList := by simp
  have otherLeading : (other ++ mark).toList <+: (text ++ mark ++ rest).toList := by simp [same]
  have sameText : text = other := by
    rcases List.prefix_or_prefix_of_prefix leading otherLeading with shorter | longer
    · exact marks shorter
    · exact (otherMarks longer).symm
  subst sameText
  exact ⟨rfl, (String.append_right_inj _).mp same⟩

/-- A character that occurs in the mark only shows where the texts end. -/
theorem marksEnd_of_notMem {char : Char} (inMark : char ∈ mark.toList)
    (absent : char ∉ text.toList) (otherAbsent : char ∉ other.toList) :
    MarksEnd mark text other := by
  have place {text : String} (absent : char ∉ text.toList) (rest : List Char) :
      (text.toList ++ (mark.toList ++ rest)).idxOf char =
        mark.toList.idxOf char + text.toList.length := by
    simp [List.idxOf_append, absent, inMark]
  rintro ⟨rest, whole⟩
  rw [String.toList_append, String.toList_append, List.append_assoc] at whole
  have sameLength : text.toList.length = other.toList.length := by
    have first := place absent rest
    have otherFirst := place otherAbsent []
    rw [List.append_nil, ← whole, first] at otherFirst
    exact Nat.add_left_cancel otherFirst
  rw [← String.toList_inj]
  exact List.append_inj_left whole sameLength

end Marks

theorem trim_of_solid {text : List Char}
    (first : ∀ char ∈ text.head?, isWhiteSpace char = false)
    (last : ∀ char ∈ text.getLast?, isWhiteSpace char = false) : trim text = text := by
  have keep (list : List Char) (solid : ∀ char ∈ list.head?, isWhiteSpace char = false) :
      list.dropWhile isWhiteSpace = list := by
    cases list with
    | nil => rfl
    | cons char list => rw [List.dropWhile_cons_of_neg]; simp [solid char rfl]
  rw [trim, trimStart, keep text first, trimEnd, keep text.reverse]
  · exact List.reverse_reverse text
  · rw [List.head?_reverse]
    exact last

theorem trim_cons_blank {blank : Char} (white : isWhiteSpace blank = true) (text : List Char) :
    trim (blank :: text) = trim text := by
  rw [trim, trimStart, List.dropWhile_cons_of_pos white, trim, trimStart]

end Microbench.Text
