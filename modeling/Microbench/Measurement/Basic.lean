import Microbench.Binary64.Basic
import Microbench.Settings.Basic
import Microbench.Suite.Session

/-!
# Timed iterations

An iteration invokes the benchmark many times in one block and divides the time by the number of
invocations.  Work on a session leaves a journal and lines of output behind.
-/

namespace Microbench

/-- A session at work, and what the work has left behind. -/
structure Bench where
  session : Session
  /-- What was done to the instance. -/
  journal : Journal
  lines : Array String

/-- How far an iteration has been filled while its invocations are counted. -/
structure Tally where
  /-- The nanoseconds that are used up. -/
  elapsed : UInt64
  calls : UInt64
deriving DecidableEq

namespace Tally

def empty : Tally := ⟨0, 0⟩

/-- Counts an invocation.  It uses up at least one nanosecond. -/
def count (tally : Tally) (elapsed : UInt64) : Tally :=
  ⟨saturatedNanos (tally.elapsed.toNat + max elapsed.toNat 1), tally.calls + 1⟩

/-- As long as there is room, each invocation uses up some of it. -/
theorem elapsed_lt_count {tally : Tally} (room : tally.elapsed.toNat < maxNanos)
    (elapsed : UInt64) : tally.elapsed.toNat < (tally.count elapsed).elapsed.toNat := by
  rw [count, toNat_saturatedNanos]
  omega

end Tally

/-- The nanoseconds of one operation: a block has at least one. -/
def perOperation (elapsed cycles : UInt64) : Float :=
  elapsed.toFloat / (max cycles 1).toFloat

namespace Bench

/-- Runs a block: the nanoseconds that it took. -/
def run (bench : Bench) (cycles : Nat) : Except Panic UInt64 × Bench :=
  let (outcome, session) := bench.session.run cycles
  (outcome, { bench with session := session, journal := bench.journal.push (.block cycles) })

def flush (bench : Bench) : Bench :=
  let (values, session) := bench.session.flush
  { bench with session := session, journal := bench.journal.push (.flush values) }

/-- Writes a line of output. -/
def print (bench : Bench) (line : String) : Bench := { bench with lines := bench.lines.push line }

/-- Invokes the benchmark one at a time, until the budget is used up. -/
def fill (budget : UInt64) (tally : Tally) (bench : Bench) : Except Panic Tally × Bench :=
  if tally.elapsed < budget then
    match bench.run 1 with
    | (.error panic, bench) => (.error panic, bench)
    | (.ok elapsed, bench) => fill budget (tally.count elapsed) bench
  else (.ok tally, bench)
termination_by budget.toNat - tally.elapsed.toNat
decreasing_by
  have unfilled : tally.elapsed.toNat < budget.toNat := UInt64.lt_iff_toNat_lt.mp ‹_›
  have room : tally.elapsed.toNat < maxNanos :=
    Nat.lt_of_lt_of_le unfilled (Nat.le_of_lt_succ budget.toNat_lt)
  have grows := Tally.elapsed_lt_count room elapsed
  omega

/-- Counts the invocations that fill an iteration: at least one. -/
def estimate (settings : Settings) (bench : Bench) : Except Failure UInt64 × Bench :=
  let (outcome, bench) := bench.fill settings.budget .empty
  (Phase.estimation.capture (outcome.map fun tally => max tally.calls 1), bench)

/-- Runs an iteration and prints the time of one operation after a heading: the nanoseconds of
one operation. -/
def iterate (settings : Settings) (heading : String) (cycles : UInt64) (bench : Bench) :
    Except Panic Float × Bench :=
  match bench.run cycles.toNat with
  | (.error panic, bench) => (.error panic, bench)
  | (.ok elapsed, bench) =>
    let nanos := perOperation elapsed cycles
    let bench := if settings.advanced.flushesAfterIteration then bench.flush else bench
    (.ok nanos, bench.print (heading ++ ": " ++ settings.nanosText nanos))

/-- Runs the iteration of an index before the measured ones. -/
def warmUp (settings : Settings) (index : Nat) (cycles : UInt64) (bench : Bench) :
    Except Failure Unit × Bench :=
  let (outcome, bench) := bench.iterate settings ("Warm-up #" ++ toString index) cycles
  ((Phase.warmup index).capture (outcome.map fun _ => ()), bench)

/-- Runs the measured iteration of an index: its sample. -/
def measure (settings : Settings) (index : Nat) (cycles : UInt64) (bench : Bench) :
    Except Failure Binary64 × Bench :=
  let (outcome, bench) := bench.iterate settings ("Iteration #" ++ toString index) cycles
  let sample := outcome.map fun nanos => Binary64.ofFloat (settings.sample nanos)
  ((Phase.measurement index).capture sample, bench)

end Bench

end Microbench
