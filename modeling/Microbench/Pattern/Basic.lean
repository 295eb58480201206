import Microbench.Pattern.Look

/-!
# Patterns

A pattern describes pieces of a text.  A set of places of the text is a list of marks, one for
each place: a pattern takes the places where a piece may start to the places where it may end.
-/

namespace Microbench

/-- A regular pattern. -/
inductive Pattern where
  | empty
  | one (set : CharSet)
  /-- The empty piece, at places where a condition holds. -/
  | look (condition : Look)
  | capture (inner : Pattern)
  /-- One piece after another. -/
  | append (first second : Pattern)
  | either (first second : Pattern)
  /-- Pieces in a row: at least so many and, unless there is no limit, at most so many. -/
  | times (inner : Pattern) (least : Nat) (most? : Option Nat)

/-- A set of places of a text, one mark for each. -/
abbrev Marks := List Bool

namespace Marks

/-- The places of either set. -/
def union (a b : Marks) : Marks := List.zipWith or a b

/-- Takes a step a number of times, but no longer than it changes anything. -/
def iterate (step : Marks → Marks) : Nat → Marks → Marks
  | 0, marks => marks
  | count + 1, marks =>
    let next := step marks
    if next = marks then marks else iterate step count next

/-- The places after each character whose place before is marked and which is in a set. -/
def advance (set : CharSet) (text : List Char) (marks : Marks) : Marks :=
  false :: List.zipWith (fun char marked => marked && set.contains char) text marks

/-- The marked places at which a condition holds. -/
def restrict (look : Look) (places : List Place) (marks : Marks) : Marks :=
  List.zipWith (fun place marked => marked && look.holds place) places marks

end Marks

namespace Pattern

/-- The places where a piece of the text may end that starts at a marked place.  A row without a
limit is complete once it has as many pieces as there are places. -/
def ends (text : List Char) : Pattern → Marks → Marks
  | .empty, marks => marks
  | .one set, marks => marks.advance set text
  | .look condition, marks => marks.restrict condition (Place.all text)
  | .capture inner, marks => inner.ends text marks
  | .append first second, marks => second.ends text (first.ends text marks)
  | .either first second, marks => (first.ends text marks).union (second.ends text marks)
  | .times inner least most?, marks =>
    let extra := match most? with
      | some most => most - least
      | none => text.length + 1
    Marks.iterate (fun marks => marks.union (inner.ends text marks)) extra
      (Marks.iterate (inner.ends text) least marks)

/-- Whether some piece of the text, anywhere in it, fits the pattern. -/
def isIn (pattern : Pattern) (text : String) : Bool :=
  let chars := text.toList
  (pattern.ends chars (List.replicate (chars.length + 1) true)).any id

/-- Whether the pattern has a character at all. -/
def hasChar : Pattern → Bool
  | .empty | .look _ => false
  | .one _ => true
  | .capture inner | .times inner _ _ => inner.hasChar
  | .append first second | .either first second => first.hasChar || second.hasChar

/-- The memory, in bytes, of one state of an automaton. -/
def stateSize : Nat := 32

/-- About the memory that a set of characters takes in an automaton over bytes. -/
def setSize (set : CharSet) : Nat :=
  match set.ranges with
  | [(first, last)] =>
    if first = last then stateSize * (Char.ofNat first).utf8Size
    else if last < 0x80 then stateSize + 8 else 4 * stateSize
  | ranges => stateSize + ranges.foldl (fun size range => size + if range.2 < 0x80 then 8 else 64) 0

/-- About the memory that an automaton for the pattern takes. -/
def size : Pattern → Nat
  | .empty | .look _ => stateSize
  | .one set => setSize set
  | .capture inner => inner.size + 2 * stateSize
  | .append first second => first.size + second.size
  | .either first second => first.size + second.size + 2 * stateSize
  | .times inner least most? =>
    let (least, most?) :=
      if inner.hasChar then (least, most?) else (min least 1, most?.map (min · 1))
    match most? with
    | none => max least 1 * inner.size + stateSize
    | some most => most * inner.size + (most - least) * stateSize

/-- The memory that an automaton may take. -/
def sizeLimit : Nat := 10485760

end Pattern

end Microbench
