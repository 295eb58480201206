import Microbench.Text.Numeral

/-!
# Runs of code points

A property with few values is written down as lines that go through all code points in order:
the value of a run of code points, then the length of the run.  A value is a capital and small
letters; a run without a number has length one.
-/

namespace Microbench.Runs

/-- A run: its value and its length. -/
def readRun (run : List Char) : String × Nat :=
  (String.ofList (run.takeWhile Char.isAlpha),
    (Numeral.readDigits? (run.dropWhile Char.isAlpha)).getD 1)

/-- The runs in a text: each begins with a capital. -/
def split (text : List Char) : List (List Char) := text.splitBy fun _ next => !next.isUpper

/-- Runs of known values and lengths, from a code point on: values, first and last code points. -/
def place : Nat → List (String × Nat) → List (String × Nat × Nat)
  | _, [] => []
  | start, (value, length) :: runs =>
    (value, start, start + length - 1) :: place (start + length) runs

/-- Values with first and last code points. -/
def read (lines : List String) : List (String × Nat × Nat) :=
  place 0 ((split (lines.flatMap String.toList)).map readRun)

/-- The ranges of code points that have one of some values. -/
def ranges (runs : List (String × Nat × Nat)) (values : List String) : List (Nat × Nat) :=
  (runs.filter fun run => values.contains run.1).map fun run => run.2

end Microbench.Runs
