import Microbench.Measurement.Basic

/-!
# Executions

An execution opens a session, works on it and always releases it again.  The work is a whole run,
or one iteration of a run whose iterations are spread over several executions.
-/

namespace Microbench

namespace Bench

/-- Runs the iterations before the measured ones, from an index on. -/
def warmUpAll (settings : Settings) (cycles : UInt64) :
    (count index : Nat) → Bench → Except Failure Unit × Bench
  | 0, _, bench => (.ok (), bench)
  | count + 1, index, bench =>
    match bench.warmUp settings index cycles with
    | (.error failure, bench) => (.error failure, bench)
    | (.ok (), bench) => warmUpAll settings cycles count (index + 1) bench

/-- Runs measured iterations, from an index on: their samples, after earlier ones. -/
def measureAll (settings : Settings) (cycles : UInt64) :
    (count index : Nat) → (samples : Array Binary64) → Bench →
      Except Failure (List Binary64) × Bench
  | 0, _, samples, bench => (.ok samples.toList, bench)
  | count + 1, index, samples, bench =>
    match bench.measure settings index cycles with
    | (.error failure, bench) => (.error failure, bench)
    | (.ok sample, bench) =>
      measureAll settings cycles count (index + 1) (samples.push sample) bench

/-- A whole run: the samples of its measured iterations. -/
def runAll (settings : Settings) (bench : Bench) : Except Failure (List Binary64) × Bench :=
  match bench.estimate settings with
  | (.error failure, bench) => (.error failure, bench)
  | (.ok cycles, bench) =>
    match bench.warmUpAll settings cycles settings.warmups.toNat 0 with
    | (.error failure, bench) => (.error failure, bench)
    | (.ok (), bench) => bench.measureAll settings cycles settings.iterations.toNat 0 #[]

/-- One iteration before the measured ones on its own: the invocations in an iteration. -/
def warmUpAlone (settings : Settings) (index : Nat) (bench : Bench) :
    Except Failure UInt64 × Bench :=
  match bench.estimate settings with
  | (.error failure, bench) => (.error failure, bench)
  | (.ok cycles, bench) =>
    let (outcome, bench) := bench.warmUp settings index cycles
    (outcome.map fun _ => cycles, bench)

end Bench

/-- What has come of work on a session. -/
structure Execution (α : Type) where
  /-- The value of the work, or why it ended early. -/
  outcome : Except Failure α
  /-- What was done to the instance. -/
  journal : Journal
  lines : List String

namespace Execution

variable {α : Type}

/-- Works on a fresh session and releases it.  A failure of the work comes before a failure of the
release. -/
def within (suite : Suite) (index : Nat) (parameters : ParameterSet)
    (work : Bench → Except Failure α × Bench) : Execution α :=
  match Session.start suite index parameters with
  | (.error failure, activities) => ⟨.error failure, activities.toArray, []⟩
  | (.ok session, activities) =>
    let (outcome, bench) := work ⟨session, activities.toArray, #[]⟩
    let (released, activities) := bench.session.close
    let outcome := do
      let value ← outcome
      Phase.teardown.capture released
      return value
    ⟨outcome, bench.journal ++ activities, bench.lines.toList⟩

def run (suite : Suite) (index : Nat) (parameters : ParameterSet) (settings : Settings) :
    Execution (List Binary64) :=
  within suite index parameters (Bench.runAll settings)

/-- One iteration before the measured ones: the invocations in an iteration. -/
def warmUp (suite : Suite) (index : Nat) (parameters : ParameterSet) (settings : Settings)
    (warmup : Nat) : Execution UInt64 :=
  within suite index parameters (Bench.warmUpAlone settings warmup)

/-- One measured iteration, with at least one invocation: its sample. -/
def measure (suite : Suite) (index : Nat) (parameters : ParameterSet) (settings : Settings)
    (iteration : Nat) (cycles : UInt64) : Execution Binary64 :=
  within suite index parameters (Bench.measure settings iteration (max cycles 1))

/-- The count of the invocations that fill an iteration. -/
def estimate (suite : Suite) (index : Nat) (parameters : ParameterSet) (settings : Settings) :
    Execution UInt64 :=
  within suite index parameters (Bench.estimate settings)

end Execution

end Microbench
