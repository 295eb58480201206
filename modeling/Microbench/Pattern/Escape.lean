import Microbench.Pattern.Flags
import Microbench.Text.Split

/-!
# Escapes

A backslash takes the meaning of a character away or gives it one: a character that is hard to
write, a set of characters, or a condition on a place.
-/

namespace Microbench.Pattern

/-- What stands for one character, a set of characters or a condition. -/
inductive Atom where
  | char (char : Char)
  | set (set : CharSet)
  | look (condition : Look)

/-- The value of a hexadecimal digit. -/
def hexDigit? (char : Char) : Option Nat :=
  if char.isDigit then some (char.toNat - '0'.toNat)
  else if 'a' ≤ char ∧ char ≤ 'f' then some (char.toNat - 'a'.toNat + 10)
  else if 'A' ≤ char ∧ char ≤ 'F' then some (char.toNat - 'A'.toNat + 10)
  else none

/-- The character of a code point. -/
def charOf? (code : Nat) : Option Char := if code.isValidChar then some (.ofNat code) else none

/-- The number of a fixed count of hexadecimal digits, with what follows them. -/
def readHex (flags : Flags) : (digits value : Nat) → List Char → Option (Nat × List Char)
  | 0, value, rest => some (value, rest)
  | digits + 1, value, char :: rest => do
    readHex flags digits (16 * value + (← hexDigit? char)) (flags.skip rest)
  | _ + 1, _, [] => none

/-- The characters up to a closing brace, with what follows it.  The fuel is the length of the
text. -/
def readBraced (flags : Flags) : (fuel : Nat) → List Char → Option (List Char × List Char)
  | 0, _ => none
  | fuel + 1, rest =>
    match flags.skip rest with
    | [] => none
    | '}' :: rest => some ([], rest)
    | char :: rest => do
      let (chars, rest) ← readBraced flags fuel rest
      return (char :: chars, rest)

/-- The character of a code point in hexadecimal digits, after the letter that announces it.  Two
bare digits denote a byte, which must be a character of its own. -/
def readCode (flags : Flags) (letter : Char) (rest : List Char) : Option (Atom × List Char) :=
  match flags.skip rest with
  | '{' :: rest => do
    let (digits, rest) ← readBraced flags rest.length.succ rest
    let values ← digits.mapM hexDigit?
    if values.isEmpty then none
    let char ← charOf? (values.foldl (fun value digit => 16 * value + digit) 0)
    return (.char char, flags.skip rest)
  | rest => do
    let digits := if letter = 'x' then 2 else if letter = 'u' then 4 else 8
    let (code, rest) ← readHex flags digits 0 rest
    if letter = 'x' && !flags.unicode && code ≥ 0x80 then none
    return (.char (← charOf? code), rest)

/-- What may stand between a property and its value: each of the marks means that the property has
the value, and an earlier one is looked for first. -/
def valueMarks : List String := ["!=", ":", "="]

/-- The set of a property, after the letter that announces it. -/
def readProperty (flags : Flags) (negated : Bool) (rest : List Char) :
    Option (Atom × List Char) := do
  let (name, rest) ← match flags.skip rest with
    | '{' :: rest => readBraced flags rest.length.succ rest
    | '\\' :: _ => none
    | char :: rest => some ([char], flags.skip rest)
    | [] => none
  if !flags.unicode then none
  let split? := (valueMarks.map String.toList).findSome? fun mark => Text.splitAtFirst? mark name
  let set ← match split? with
    | some (property, value) =>
      CharSet.valued? (CharSet.plainName property) (CharSet.plainName value)
    | none => CharSet.named? (CharSet.plainName name)
  let set := flags.fold set
  return (.set (if negated then set.complement else set), rest)

def classOf? (flags : Flags) (letter : Char) : Option CharSet :=
  let set? : Option CharSet := match letter.toLower with
    | 'd' => some (if flags.unicode then CharSet.digit else CharSet.asciiDigit)
    | 's' => some (if flags.unicode then CharSet.blank else CharSet.asciiBlank)
    | 'w' => some (if flags.unicode then CharSet.word else CharSet.asciiWord)
    | _ => none
  set?.bind fun set => if letter.isUpper then flags.complement? set else some set

/-- The kind of the end of a word that is named in braces, with what follows it; nothing if the
braces do not start like a name. -/
def readWordEdge (flags : Flags) (rest : List Char) :
    Option (Option (WordEdge × List Char)) := do
  let isNameChar (char : Char) : Bool := char.isAlpha || char = '-'
  let rest := flags.skip rest
  if rest.isEmpty then none
  if !rest.head?.any isNameChar then return none
  let (name, after) ← readBraced flags rest.length.succ rest
  if !name.all isNameChar then none
  match String.ofList name with
  | "start" => return some (.start, after)
  | "end" => return some (.finish, after)
  | "start-half" => return some (.startHalf, after)
  | "end-half" => return some (.finishHalf, after)
  | _ => none

/-- Reads what follows a backslash. -/
def readEscape (flags : Flags) : List Char → Option (Atom × List Char)
  | [] => none
  | letter :: rest =>
    if letter.isDigit then none
    else if "xuU".contains letter then readCode flags letter rest
    else if "pP".contains letter then readProperty flags (letter = 'P') rest
    else if "dDsSwW".contains letter then
      (classOf? flags letter).map fun set => (.set set, rest)
    else
      match letter with
      | 'a' => some (.char '\x07', rest)
      | 'f' => some (.char '\x0c', rest)
      | 't' => some (.char '\t', rest)
      | 'n' => some (.char '\n', rest)
      | 'r' => some (.char '\r', rest)
      | 'v' => some (.char '\x0b', rest)
      | 'A' => some (.look .textStart, rest)
      | 'z' => some (.look .textEnd, rest)
      | 'B' => some (.look (flags.word .inside), rest)
      | '<' => some (.look (flags.word .start), rest)
      | '>' => some (.look (flags.word .finish), rest)
      | 'b' =>
        match rest with
        | '{' :: named => do
          match ← readWordEdge flags named with
          | some (edge, rest) => return (.look (flags.word edge), rest)
          | none => return (.look (flags.word .boundary), rest)
        | _ => some (.look (flags.word .boundary), rest)
      | _ =>
        if letter.toNat < 0x80 && !letter.isAlphanum then some (.char letter, rest) else none

end Microbench.Pattern
