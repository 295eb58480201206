import Microbench.Pattern.Escape

/-!
# Bracketed classes

A class in brackets lists characters, ranges, other classes, and sets that operators combine.
Operators have one precedence and go from left to right.
-/

namespace Microbench.Pattern

/-- The operators of classes. -/
inductive ClassOperator where
  /-- What both sides have. -/
  | intersection
  /-- What the left side alone has. -/
  | difference
  /-- What one side alone has. -/
  | symmetricDifference
deriving DecidableEq

/-- A part of a class: its characters, and how deep it is nested. -/
structure ClassPart where
  set : CharSet
  depth : Nat

/-- What has been listed since a bracket or an operator. -/
structure ClassItems where
  set : CharSet
  count : Nat
  depth : Nat

namespace ClassItems

/-- Nothing is listed yet. -/
def none : ClassItems := ⟨.empty, 0, 0⟩

def add (items : ClassItems) (part : ClassPart) : ClassItems :=
  ⟨items.set.union part.set, items.count + 1, max items.depth part.depth⟩

def part (items : ClassItems) : ClassPart :=
  ⟨items.set, if items.count ≤ 1 then items.depth else items.depth + 1⟩

end ClassItems

/-- What a class that is being read waits for. -/
inductive ClassFrame where
  /-- A closing bracket: it may negate the class, which then joins other items. -/
  | bracket (negated : Bool) (outer : ClassItems)
  /-- The right side of an operator. -/
  | operator (operator : ClassOperator) (left : ClassPart)

/-- The part that an operator makes of its sides. -/
def ClassOperator.combine (operator : ClassOperator) (left right : ClassPart) : ClassPart :=
  let set := match operator with
    | .intersection => left.set.inter right.set
    | .difference => left.set.diff right.set
    | .symmetricDifference => left.set.symmDiff right.set
  ⟨set, max left.depth right.depth + 1⟩

/-- The part that is complete where an operator or a closing bracket follows, and what then is
waited for. -/
def ClassItems.complete (items : ClassItems) :
    List ClassFrame → ClassPart × List ClassFrame
  | .operator operator left :: frames => (operator.combine left items.part, frames)
  | frames => (items.part, frames)

/-- The set of a character in a class. -/
def classChar? (flags : Flags) (char : Char) : Option Char :=
  if flags.unicode || char.toNat < 0x80 then some char else none

/-- Reads one character of a class, or what stands for one. -/
def readClassAtom (flags : Flags) : List Char → Option (Atom × List Char)
  | [] => none
  | '\\' :: rest => readEscape flags rest
  | char :: rest => some (.char char, rest)

/-- The character after the next one that is no blank, seen from a character of a class.  A hash
sign before it hides nothing but itself. -/
def peekBeyond? (flags : Flags) (rest : List Char) : Option Char :=
  if !flags.verbose then rest.head?
  else
    let afterBlanks := rest.dropWhile Text.isWhiteSpace
    let beyond := match afterBlanks with
      | '#' :: comment => comment.dropWhile Text.isWhiteSpace
      | _ => afterBlanks
    if beyond.isEmpty then rest.head? else beyond.head?

/-- Reads a character, a set or a range of characters in a class. -/
def readClassItem (flags : Flags) (rest : List Char) : Option (ClassPart × List Char) := do
  let (atom, rest) ← readClassAtom flags rest
  let rest := flags.skip rest
  let isRange := match rest with
    | '-' :: after =>
      let beyond := peekBeyond? flags after
      beyond != some ']' && beyond != some '-'
    | _ => false
  match atom, isRange with
  | .char first, false =>
    return (⟨flags.fold (.single (← classChar? flags first)), 0⟩, rest)
  | .set set, false => return (⟨set, 0⟩, rest)
  | .char first, true => do
    let (atom, rest) ← readClassAtom flags (flags.skip (rest.drop 1))
    match atom with
    | .char last =>
      let (first, last) := (← classChar? flags first, ← classChar? flags last)
      if last < first then none
      return (⟨flags.fold (.between first last), 0⟩, rest)
    | _ => none
  | _, _ => none

/-- The class of ASCII characters that starts with a bracket and a colon, if one does. -/
def readAsciiClass? (flags : Flags) (rest : List Char) :
    Option (Option ClassPart × List Char) := do
  let (negated, named) := match rest with
    | '^' :: named => (true, named)
    | named => (false, named)
  match named.dropWhile (· != ':') with
  | ':' :: ']' :: after => do
    let set ← CharSet.asciiClass? (String.ofList (named.takeWhile (· != ':')))
    let set := flags.fold set
    let set? := if negated then flags.complement? set else some set
    return (set?.map fun set => ⟨set, 0⟩, after)
  | _ => none

/-- Drops dashes at the start of a class; the number of dashes. -/
def readDashes (flags : Flags) : (fuel : Nat) → List Char → Nat × List Char
  | fuel + 1, '-' :: rest =>
    let (count, rest) := readDashes flags fuel (flags.skip rest)
    (count + 1, rest)
  | _, rest => (0, rest)

/-- Reads the start of a class after its bracket: whether it is negated, and the dashes and the
bracket that stand for themselves there. -/
def openClass (flags : Flags) (rest : List Char) : Bool × ClassItems × List Char :=
  let (negated, rest) := match flags.skip rest with
    | '^' :: rest => (true, flags.skip rest)
    | rest => (false, rest)
  let (dashes, rest) := readDashes flags rest.length rest
  let literal (char : Char) (items : ClassItems) : ClassItems :=
    items.add ⟨flags.fold (.single char), 0⟩
  let items := Nat.repeat (literal '-') dashes .none
  match rest with
  | ']' :: rest =>
    if dashes = 0 then (negated, literal ']' items, flags.skip rest)
    else (negated, items, ']' :: rest)
  | rest => (negated, items, rest)

/-- Reads a class to its end, with what is listed so far.  The fuel is the length of the text. -/
def readClassRest (flags : Flags) :
    (fuel : Nat) → List ClassFrame → ClassItems → List Char → Option (ClassPart × List Char)
  | 0, _, _, _ => none
  | fuel + 1, frames, items, rest =>
    let operate (operator : ClassOperator) (rest : List Char) :=
      let (left, frames) := items.complete frames
      readClassRest flags fuel (.operator operator left :: frames) .none rest
    match flags.skip rest with
    | [] => none
    | '[' :: rest =>
      let ascii? := match rest with
        | ':' :: named => readAsciiClass? flags named
        | _ => none
      match ascii? with
      | some (some part, rest) => readClassRest flags fuel frames (items.add part) rest
      | some (none, _) => none
      | none =>
        let (negated, inner, rest) := openClass flags rest
        readClassRest flags fuel (.bracket negated items :: frames) inner rest
    | ']' :: rest =>
      match items.complete frames with
      | (part, .bracket negated outer :: frames) => do
        let set ← if negated then flags.complement? part.set else some part.set
        let part : ClassPart := ⟨set, part.depth + 1⟩
        if frames.isEmpty then return (part, rest)
        readClassRest flags fuel frames (outer.add part) rest
      | _ => none
    | '&' :: '&' :: rest => operate .intersection rest
    | '-' :: '-' :: rest => operate .difference rest
    | '~' :: '~' :: rest => operate .symmetricDifference rest
    | rest => do
      let (part, rest) ← readClassItem flags rest
      readClassRest flags fuel frames (items.add part) rest

/-- Reads a class after its opening bracket. -/
def readClass (flags : Flags) (rest : List Char) : Option (ClassPart × List Char) :=
  let (negated, items, rest) := openClass flags rest
  readClassRest flags rest.length.succ [.bracket negated .none] items rest

end Microbench.Pattern
