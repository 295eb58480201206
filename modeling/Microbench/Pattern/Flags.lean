import Microbench.Pattern.Basic
import Microbench.Pattern.Property

/-!
# Flags

Flags change how a part of a pattern is read: what follows them, up to the end of the group they
stand in.
-/

namespace Microbench.Pattern

/-- How a part of a pattern is read. -/
structure Flags where
  /-- Case does not matter. -/
  ignoreCase : Bool
  /-- Lines start and end in the text. -/
  multiLine : Bool
  /-- A dot stands for line feeds too. -/
  dotAll : Bool
  /-- Carriage returns end lines too. -/
  anyLineEnd : Bool
  /-- Classes go beyond ASCII. -/
  unicode : Bool
  /-- White space and comments are not part of the pattern. -/
  verbose : Bool

namespace Flags

/-- How a pattern is read before any flag. -/
def initial : Flags := ⟨false, false, false, false, true, false⟩

/-- Turns the flag of a letter on or off; how eager a row is does not matter here. -/
def change (flags : Flags) (letter : Char) (value : Bool) : Flags :=
  match letter with
  | 'i' => { flags with ignoreCase := value }
  | 'm' => { flags with multiLine := value }
  | 's' => { flags with dotAll := value }
  | 'R' => { flags with anyLineEnd := value }
  | 'u' => { flags with unicode := value }
  | 'x' => { flags with verbose := value }
  | _ => flags

/-- Drops white space and comments; a comment ends with its line. -/
def dropBlanks : (inComment : Bool) → List Char → List Char
  | _, [] => []
  | true, char :: rest => dropBlanks (char != '\n') rest
  | false, char :: rest =>
    if Text.isWhiteSpace char then dropBlanks false rest
    else if char = '#' then dropBlanks true rest
    else char :: rest

/-- What is left of a pattern at its next character. -/
def skip (flags : Flags) (rest : List Char) : List Char :=
  if flags.verbose then dropBlanks false rest else rest

/-- The set for a set that is written down: case is folded if it does not matter. -/
def fold (flags : Flags) (set : CharSet) : CharSet :=
  if !flags.ignoreCase then set
  else if flags.unicode then set.folded
  else set.asciiFolded

/-- All characters but those of a set, which must go beyond ASCII for that. -/
def complement? (flags : Flags) (set : CharSet) : Option CharSet :=
  if flags.unicode then some set.complement else none

/-- The set of the dot. -/
def dot? (flags : Flags) : Option CharSet :=
  if !flags.unicode then none
  else if flags.dotAll then some .all
  else if flags.anyLineEnd then some (CharSet.ofText "\r\n").complement
  else some (CharSet.ofText "\n").complement

/-- The condition of a circumflex. -/
def lineStart (flags : Flags) : Look :=
  if !flags.multiLine then .textStart
  else if flags.anyLineEnd then .anyLineStart
  else .lineStart

/-- The condition of a dollar sign. -/
def lineEnd (flags : Flags) : Look :=
  if !flags.multiLine then .textEnd
  else if flags.anyLineEnd then .anyLineEnd
  else .lineEnd

def word (flags : Flags) (edge : WordEdge) : Look :=
  .word edge (if flags.unicode then CharSet.word else CharSet.asciiWord)

end Flags

end Microbench.Pattern
