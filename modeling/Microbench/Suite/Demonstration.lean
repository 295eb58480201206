import Microbench.Suite.Scripted

/-!
# Demonstration

Suites that show what a runner configuration does: one whose costs grow with a parameter, and one
with a benchmark that panics.
-/

namespace Microbench.Demonstration

/-- A benchmark whose cost grows with the parameter for the size. -/
def growing (name : String) (shape : Shape) (costs : List Nat) (handed : Nat) :
    ScriptedBenchmark :=
  ⟨name, shape, costs, some "size", handed, none⟩

/-- A suite whose costs grow with the size. -/
def scaling : ScriptedSuite where
  name := "demo.Scaling"
  parameters := [("size", ["100", "10000"])]
  defaults := { Defaults.standard with iterationTime := ⟨1, .milliseconds⟩ }
  panics := []
  benchmarks :=
    [growing "scan" .plain [2, 3] 0, growing "sort" .sinking [11, 10, 12] 1,
      growing "fetch" .deferred [40] 0]

/-- A suite with a benchmark that panics. -/
def failing : ScriptedSuite where
  name := "demo.Failing"
  parameters := []
  defaults := { Defaults.standard with iterationTime := ⟨1, .milliseconds⟩ }
  panics := []
  benchmarks :=
    [⟨"steady", .plain, [500], none, 0, none⟩,
      ⟨"exhausted", .plain, [500], none, 0, some (3000, .text "out of work")⟩]

/-- The suites, in the order of their registration. -/
def suites : List Suite := [scaling.suite, failing.suite]

end Microbench.Demonstration
