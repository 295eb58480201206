/-!
# Parts of texts

Texts are divided at every separator, at the first or the last one, or into lines.  A line ends at
a line feed, with or without a carriage return before it; a carriage return alone is part of the
line.
-/

namespace Microbench.Text

/-- The parts between separators. -/
def splitAll (separator : Char) : List Char → List (List Char)
  | [] => [[]]
  | char :: rest =>
    if char = separator then [] :: splitAll separator rest
    else
      match splitAll separator rest with
      | [] => [[char]]
      | part :: parts => (char :: part) :: parts

/-- The parts before and after the first separator, if there is one. -/
def splitFirst? (separator : Char) : List Char → Option (List Char × List Char)
  | [] => none
  | char :: rest =>
    if char = separator then some ([], rest)
    else (splitFirst? separator rest).map fun parts => (char :: parts.1, parts.2)

/-- The parts before and after the last separator, if there is one. -/
def splitLast? (separator : Char) : List Char → Option (List Char × List Char)
  | [] => none
  | char :: rest =>
    match splitLast? separator rest with
    | some parts => some (char :: parts.1, parts.2)
    | none => if char = separator then some ([], rest) else none

/-- The parts before and after the first occurrence of a text, if there is one. -/
def splitAtFirst? (mark : List Char) : List Char → Option (List Char × List Char)
  | [] => if mark.isEmpty then some ([], []) else none
  | char :: rest =>
    if mark.isPrefixOf (char :: rest) then some ([], (char :: rest).drop mark.length)
    else (splitAtFirst? mark rest).map fun parts => (char :: parts.1, parts.2)

/-- The parts before and after the last occurrence of a text, if there is one. -/
def splitAtLast? (mark : List Char) : List Char → Option (List Char × List Char)
  | [] => if mark.isEmpty then some ([], []) else none
  | char :: rest =>
    match splitAtLast? mark rest with
    | some parts => some (char :: parts.1, parts.2)
    | none =>
      if mark.isPrefixOf (char :: rest) then some ([], (char :: rest).drop mark.length) else none

/-- A line without the carriage return that is part of its end. -/
def withoutReturn (line : List Char) : List Char :=
  if line.getLast? = some '\r' then line.dropLast else line

/-- Lines from the parts between line feeds; what follows the last line feed is a line if it is
not empty. -/
def linesOfParts : List (List Char) → List (List Char)
  | [] => []
  | [last] => if last.isEmpty then [] else [last]
  | line :: rest => withoutReturn line :: linesOfParts rest

def lines (text : List Char) : List (List Char) := linesOfParts (splitAll '\n' text)

theorem splitAll_ne_nil (separator : Char) (text : List Char) : splitAll separator text ≠ [] := by
  cases text with
  | nil => simp [splitAll]
  | cons char rest =>
    unfold splitAll
    split
    · simp
    · split <;> simp

/-- Nothing is lost but the separators. -/
theorem intercalate_splitAll (separator : Char) (text : List Char) :
    [separator].intercalate (splitAll separator text) = text := by
  induction text with
  | nil => simp [splitAll]
  | cons char rest hypothesis =>
    unfold splitAll
    split
    · rename_i same
      cases parts : splitAll separator rest with
      | nil => exact absurd parts (splitAll_ne_nil separator rest)
      | cons part others => simp_all [List.intercalate]
    · cases parts : splitAll separator rest with
      | nil => exact absurd parts (splitAll_ne_nil separator rest)
      | cons part others => cases others <;> simp_all [List.intercalate]

end Microbench.Text
