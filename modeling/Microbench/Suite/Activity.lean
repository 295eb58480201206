import Microbench.Parameter.Set

/-!
# Activities

What a run does to the code under measurement, one activity after the other: the journal of a run.
-/

namespace Microbench

/-- One thing done to an instance. -/
inductive Activity where
  | construct
  | parametrize (parameters : ParameterSet)
  | setup
  | block (cycles : Nat)
  | flush (values : UInt64)
  /-- It is released after this many invocations. -/
  | teardown (calls : Nat)
deriving DecidableEq

namespace Activity

/-- An activity as a line of the journal. -/
def text : Activity → String
  | .construct => "new"
  | .parametrize parameters => "params " ++ parameters.text
  | .setup => "setup"
  | .block cycles => "run " ++ toString cycles
  | .flush values => "flush " ++ toString values.toNat
  | .teardown calls => "teardown calls=" ++ toString calls

end Activity

/-- The activities of a run, in order. -/
abbrev Journal := Array Activity

namespace Journal

/-- Adds a line to counted lines, the latest first. -/
def count (lines : List (String × Nat)) (line : String) : List (String × Nat) :=
  match lines with
  | (latest, times) :: earlier =>
    if latest = line then (latest, times + 1) :: earlier else (line, 1) :: lines
  | [] => [(line, 1)]

/-- The journal as text: equal neighbours share a line, which counts them. -/
def lines (journal : Journal) : List String :=
  (journal.foldl (fun lines activity => count lines activity.text) []).reverse.map
    fun (line, times) => if times = 1 then line else line ++ " x" ++ toString times

end Journal

end Microbench
