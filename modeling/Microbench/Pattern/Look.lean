import Microbench.Pattern.CharSet

/-!
# Places in a text

A place lies between two characters, or at an end of the text.  Conditions on a place ask only for
the characters beside it.
-/

namespace Microbench

/-- The characters beside a place, none at an end of the text. -/
structure Place where
  before? : Option Char
  after? : Option Char

/-- Conditions on the ends of words. -/
inductive WordEdge where
  /-- A word starts or ends. -/
  | boundary
  /-- No word starts or ends. -/
  | inside
  /-- A word starts. -/
  | start
  /-- A word ends. -/
  | finish
  /-- No word is before the place. -/
  | startHalf
  /-- No word is after the place. -/
  | finishHalf
deriving DecidableEq

/-- Conditions on a place. -/
inductive Look where
  /-- The text starts. -/
  | textStart
  /-- The text ends. -/
  | textEnd
  /-- A line starts: lines end at line feeds. -/
  | lineStart
  /-- A line ends. -/
  | lineEnd
  /-- A line starts: lines end at carriage returns, line feeds and pairs of the two. -/
  | anyLineStart
  /-- A line ends in any of these ways. -/
  | anyLineEnd
  /-- A condition on words made of certain characters. -/
  | word (edge : WordEdge) (letters : CharSet)
deriving DecidableEq

namespace WordEdge

/-- Whether the condition holds between characters that are, or are not, of a word. -/
def holds : WordEdge → (before after : Bool) → Bool
  | .boundary, before, after => before != after
  | .inside, before, after => before == after
  | .start, before, after => !before && after
  | .finish, before, after => before && !after
  | .startHalf, before, _ => !before
  | .finishHalf, _, after => !after

end WordEdge

namespace Look

/-- Whether the condition holds at a place. -/
def holds (look : Look) (place : Place) : Bool :=
  let ⟨before?, after?⟩ := place
  match look with
  | .textStart => before? == none
  | .textEnd => after? == none
  | .lineStart => before? == none || before? == some '\n'
  | .lineEnd => after? == none || after? == some '\n'
  | .anyLineStart =>
    before? == none || before? == some '\n' || (before? == some '\r' && after? != some '\n')
  | .anyLineEnd =>
    after? == none || after? == some '\r' || (after? == some '\n' && before? != some '\r')
  | .word edge letters => edge.holds (before?.any letters.contains) (after?.any letters.contains)

end Look

def Place.all (text : List Char) : List Place :=
  List.zipWith Place.mk (none :: text.map some) (text.map some ++ [none])

end Microbench
