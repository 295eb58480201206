import Microbench.Suite.Basic

/-!
# Plans

A plan selects benchmarks by their qualified names: a benchmark is selected if an include pattern
is found in the name, or if there are none, and no exclude pattern is found in it.  What a pattern
is, and where it is found, is up to a language of patterns.
-/

namespace Microbench

/-- A language of patterns. -/
class PatternLanguage where
  /-- Whether the pattern that a text denotes is found in a name; nothing if the text is no
  pattern. -/
  read? : String → Option (String → Bool)

/-- Which benchmarks are wanted. -/
structure Selection where
  /-- Whether a pattern is found in a name, for patterns of which one must be found. -/
  included : List (String → Bool)
  /-- Whether a pattern is found in a name, for patterns of which none may be found. -/
  excluded : List (String → Bool)

namespace Selection

/-- The selection that texts of patterns denote. -/
def read? [PatternLanguage] (included excluded : List String) : Option Selection := do
  return ⟨← included.mapM PatternLanguage.read?, ← excluded.mapM PatternLanguage.read?⟩

/-- Whether a benchmark of this name is wanted. -/
def selects (selection : Selection) (name : String) : Bool :=
  (selection.included.isEmpty || selection.included.any fun isIn => isIn name) &&
    !selection.excluded.any fun isIn => isIn name

end Selection

/-- A benchmark in its suite. -/
structure PlannedBenchmark where
  suite : Suite
  index : Nat
  benchmark : Benchmark

namespace PlannedBenchmark

/-- The name by which patterns and reports know the benchmark. -/
def qualifiedName (planned : PlannedBenchmark) : String :=
  planned.suite.qualifiedName planned.benchmark

def ofSuite (suite : Suite) : List PlannedBenchmark :=
  suite.benchmarks.mapIdx fun index benchmark => ⟨suite, index, benchmark⟩

end PlannedBenchmark

/-- The wanted benchmarks: suites in the order of their registration, benchmarks in the order in
which they were added. -/
def plan (selection : Selection) (suites : List Suite) : List PlannedBenchmark :=
  (suites.flatMap PlannedBenchmark.ofSuite).filter fun planned =>
    selection.selects planned.qualifiedName

end Microbench
