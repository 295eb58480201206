import Microbench.Pattern.Class

/-!
# Reading of patterns

The text of a pattern is read from left to right.  Groups that are open wait for their closing
parentheses with what has been read of them.
-/

namespace Microbench.Pattern

/-- A part of a pattern. -/
structure Piece where
  pattern : Pattern
  /-- Whether it may be repeated: flags stand for the empty pattern but may not. -/
  isRepeatable : Bool
  depth : Nat

namespace Piece

/-- A part without parts of its own. -/
def leaf (pattern : Pattern) : Piece := ⟨pattern, true, 0⟩

/-- What stands where a part is missing. -/
def missing : Piece := ⟨.empty, false, 0⟩

/-- Parts joined by an operation; one part is left as it is. -/
def joined (join : Pattern → Pattern → Pattern) : List Piece → Piece
  | [] => missing
  | first :: others =>
    if others.isEmpty then first
    else
      ⟨others.foldl (fun pattern piece => join pattern piece.pattern) first.pattern, true,
        others.foldl (fun depth piece => max depth piece.depth) first.depth + 1⟩

/-- Repeats a part. -/
def times (piece : Piece) (least : Nat) (most? : Option Nat) : Option Piece :=
  if piece.isRepeatable then some ⟨.times piece.pattern least most?, true, piece.depth + 1⟩
  else none

end Piece

/-- What has been read of a group. -/
structure OpenGroup where
  /-- How the group's text is read from here on. -/
  flags : Flags
  captures : Bool
  /-- The complete alternatives, the latest first. -/
  alternatives : List Piece
  /-- The parts of the current alternative, the latest first. -/
  parts : List Piece

namespace OpenGroup

/-- A group of which nothing has been read. -/
def start (flags : Flags) (captures : Bool) : OpenGroup := ⟨flags, captures, [], []⟩

/-- One more part. -/
def add (group : OpenGroup) (piece : Piece) : OpenGroup :=
  { group with parts := piece :: group.parts }

/-- Repeats the latest part. -/
def repeatLast (group : OpenGroup) (least : Nat) (most? : Option Nat) : Option OpenGroup :=
  match group.parts with
  | [] => none
  | piece :: parts => (piece.times least most?).map fun piece =>
    { group with parts := piece :: parts }

/-- Completes the current alternative. -/
def nextAlternative (group : OpenGroup) : OpenGroup :=
  { group with
    alternatives := Piece.joined .append group.parts.reverse :: group.alternatives
    parts := [] }

/-- All that has been read. -/
def content (group : OpenGroup) : Piece :=
  .joined .either group.nextAlternative.alternatives.reverse

/-- The group as a part of the pattern around it. -/
def piece (group : OpenGroup) : Piece :=
  let content := group.content
  ⟨if group.captures then .capture content.pattern else content.pattern, true, content.depth + 1⟩

end OpenGroup

/-- Whether a character may stand in the name of a group. -/
def isNameChar (isFirst : Bool) (char : Char) : Bool :=
  char = '_' || CharSet.alphabetic.contains char ||
    (!isFirst && (".[]".contains char || (CharSet.ofCategories ["Nd", "Nl", "No"]).contains char))

/-- Reads the name of a group, up to the angle bracket after it. -/
def readName (rest : List Char) : Option (String × List Char) :=
  let name := rest.takeWhile (· != '>')
  match name, rest.dropWhile (· != '>') with
  | first :: others, '>' :: after =>
    if isNameChar true first && others.all (isNameChar false) then
      some (String.ofList name, after)
    else none
  | _, _ => none

/-- Reads flags up to what ends them: the flags with these changes, the letters and dashes, and
the rest from the end on. -/
def readFlags (flags : Flags) (isOn : Bool) (seen : List Char) :
    List Char → Option (Flags × List Char × List Char)
  | [] => none
  | ':' :: rest => if seen.head? = some '-' then none else some (flags, seen, ':' :: rest)
  | ')' :: rest => if seen.head? = some '-' then none else some (flags, seen, ')' :: rest)
  | char :: rest =>
    if seen.contains char then none
    else if char = '-' then readFlags flags false (char :: seen) rest
    else if "imsURux".contains char then
      readFlags (flags.change char isOn) isOn (char :: seen) rest
    else none

/-- What a parenthesis opens. -/
inductive Opening where
  /-- A group that captures, perhaps under a name. -/
  | capture (name? : Option String)
  /-- A group that is read with certain flags. -/
  | plain (flags : Flags)
  /-- Flags for the rest of the group around them. -/
  | change (flags : Flags)

/-- Reads what follows an opening parenthesis. -/
def readOpening (flags : Flags) (rest : List Char) : Option (Opening × List Char) :=
  match flags.skip rest with
  | '?' :: '=' :: _ | '?' :: '!' :: _ | '?' :: '<' :: '=' :: _ | '?' :: '<' :: '!' :: _ => none
  | '?' :: 'P' :: '<' :: rest | '?' :: '<' :: rest =>
    (readName rest).map fun (name, rest) => (.capture (some name), rest)
  | '?' :: rest => do
    let (changed, seen, rest) ← readFlags flags true [] rest
    match rest with
    | ':' :: rest => return (.plain changed, rest)
    | _ :: rest => if seen.isEmpty then none else return (.change changed, rest)
    | [] => none
  | rest => some (.capture none, rest)

/-- Reads digits.  The fuel is the length of the text. -/
def readDigits (flags : Flags) : (fuel : Nat) → List Char → List Char × List Char
  | fuel + 1, char :: rest =>
    if char.isDigit then
      let (later, rest) := readDigits flags fuel (flags.skip rest)
      (char :: later, rest)
    else ([], char :: rest)
  | _, rest => ([], rest)

/-- Reads a number with the blanks around it, if there are digits. -/
def readNumber (flags : Flags) (rest : List Char) : Option Nat × List Char :=
  let (digits, rest) := readDigits flags rest.length (rest.dropWhile Text.isWhiteSpace)
  (Numeral.readBelow? UInt32.size digits, flags.skip (rest.dropWhile Text.isWhiteSpace))

/-- Reads the limits of a row after an opening brace. -/
def readLimits (flags : Flags) (rest : List Char) :
    Option (Nat × Option Nat × List Char) := do
  let (least?, rest) := readNumber flags (flags.skip rest)
  let least ← least?
  match rest with
  | '}' :: rest => return (least, some least, rest)
  | ',' :: rest =>
    match flags.skip rest with
    | '}' :: rest => return (least, none, rest)
    | rest => do
      let (most?, rest) := readNumber flags rest
      let most ← most?
      match rest with
      | '}' :: rest => if least ≤ most then return (least, some most, rest) else none
      | _ => none
  | _ => none

/-- A row that is as short as it can be is marked with a question mark, which says nothing about
where the pattern is found. -/
def dropLazy : List Char → List Char
  | '?' :: rest => rest
  | rest => rest

def Atom.pattern (flags : Flags) : Atom → Pattern
  | .char value => .one (flags.fold (.single value))
  | .set chars => .one chars
  | .look condition => .look condition

/-- The deepest nesting of a pattern that is read. -/
def nestLimit : Nat := 250

/-- Reads a pattern to its end: `group` is what is read at present, the others are around it, and
`names` are those of the groups so far.  The fuel is the length of the text. -/
def readRest : (fuel : Nat) → (names : List String) → (group : OpenGroup) →
    (outer : List OpenGroup) → List Char → Option Piece
  | 0, _, _, _, _ => none
  | fuel + 1, names, group, outer, rest =>
    let flags := group.flags
    let go (group : OpenGroup) (rest : List Char) := readRest fuel names group outer rest
    match flags.skip rest with
    | [] => if outer.isEmpty then some group.content else none
    | '(' :: rest => do
      match ← readOpening flags rest with
      | (.change changed, rest) => go ({ group with flags := changed }.add .missing) rest
      | (.plain changed, rest) =>
        readRest fuel names (.start changed false) (group :: outer) rest
      | (.capture none, rest) =>
        readRest fuel names (.start flags true) (group :: outer) rest
      | (.capture (some name), rest) =>
        if names.contains name then none
        else readRest fuel (name :: names) (.start flags true) (group :: outer) rest
    | ')' :: rest =>
      match outer with
      | [] => none
      | around :: outer => readRest fuel names (around.add group.piece) outer rest
    | '|' :: rest => go group.nextAlternative rest
    | '[' :: rest => do
      let (part, rest) ← readClass flags rest
      go (group.add ⟨.one part.set, true, part.depth⟩) rest
    | '?' :: rest => do go (← group.repeatLast 0 (some 1)) (dropLazy rest)
    | '*' :: rest => do go (← group.repeatLast 0 none) (dropLazy rest)
    | '+' :: rest => do go (← group.repeatLast 1 none) (dropLazy rest)
    | '{' :: rest => do
      let (least, most?, rest) ← readLimits flags rest
      go (← group.repeatLast least most?) (dropLazy (flags.skip rest))
    | '\\' :: rest => do
      let (atom, rest) ← readEscape flags rest
      go (group.add (.leaf (atom.pattern flags))) rest
    | '.' :: rest => do go (group.add (.leaf (.one (← flags.dot?)))) rest
    | '^' :: rest => go (group.add (.leaf (.look flags.lineStart))) rest
    | '$' :: rest => go (group.add (.leaf (.look flags.lineEnd))) rest
    | char :: rest => go (group.add (.leaf ((Atom.char char).pattern flags))) rest

/-- The pattern that a text denotes.  Patterns that are nested too deeply, or whose automaton would
be too large, are refused. -/
def read? (text : String) : Option Pattern := do
  let chars := text.toList
  let piece ← readRest chars.length.succ [] (.start .initial false) [] chars
  if piece.depth ≤ nestLimit && piece.pattern.size ≤ sizeLimit then return piece.pattern
  else none

end Microbench.Pattern
