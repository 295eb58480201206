import Microbench.Suite.Activity
import Microbench.Suite.Basic
import Microbench.Suite.Sink

/-!
# Sessions

A session owns one instance of a suite, made ready for one benchmark and one set of parameters,
and the sink that all its invocations share.
-/

namespace Microbench

/-- An instance that is ready to be measured. -/
structure Session where
  suite : Suite
  benchmark : Benchmark
  parameters : ParameterSet
  sink : Sink
  /-- The invocations so far, a panicking one included. -/
  calls : Nat

/-- What becomes of hooks that run one after the other, and what they did: the first panic keeps
the later hooks from running. -/
def Hooks.runInOrder : List (Activity × Option Panic) → Except Panic Unit × List Activity
  | [] => (.ok (), [])
  | (activity, some panic) :: _ => (.error panic, [activity])
  | (activity, none) :: later =>
    let (outcome, activities) := runInOrder later
    (outcome, activity :: activities)

/-- The hooks that make an instance ready, in order. -/
def Hooks.preparation (hooks : Hooks) (parameters : ParameterSet) :
    List (Activity × Option Panic) :=
  [(.construct, hooks.construct), (.parametrize parameters, hooks.parametrize parameters),
    (.setup, hooks.setup parameters)]

namespace Session

/-- Makes an instance ready for the benchmark of an index, and what was done for it. -/
def start (suite : Suite) (index : Nat) (parameters : ParameterSet) :
    Except Failure Session × List Activity :=
  match suite.benchmarks[index]? with
  | none =>
    let message := "suite '" ++ suite.name ++ "' has no benchmark #" ++ toString index
    (.error ⟨.setup, message, ""⟩, [])
  | some benchmark =>
    let (outcome, activities) := Hooks.runInOrder (suite.hooks.preparation parameters)
    (Phase.setup.capture (outcome.map fun _ => ⟨suite, benchmark, parameters, .empty, 0⟩),
      activities)

/-- Invokes the benchmark once. -/
def invoke (session : Session) : Option Panic × Session :=
  let shape := session.benchmark.shape
  let invocation := session.benchmark.invocation session.parameters (session.calls + 1)
  let handed := if shape.takesSink then invocation.handed else 0
  let values := match invocation.panic? with
    | none => handed + shape.returned
    | some _ => handed
  (invocation.panic?,
    { session with sink := session.sink.consume values, calls := session.calls + 1 })

/-- Invokes the benchmark in a row, up to the first panic. -/
def invokeTimes : Nat → Session → Option Panic × Session
  | 0, session => (none, session)
  | cycles + 1, session =>
    match session.invoke with
    | (some panic, session) => (some panic, session)
    | (none, session) => invokeTimes cycles session

/-- Invokes the benchmark in a row inside one timed block: the nanoseconds that it took. -/
def run (session : Session) (cycles : Nat) : Except Panic UInt64 × Session :=
  match session.invokeTimes cycles with
  | (some panic, session) => (.error panic, session)
  | (none, after) =>
    (.ok (session.benchmark.elapsed session.parameters session.calls cycles), after)

/-- Flushes the sink: the values it held. -/
def flush (session : Session) : UInt64 × Session :=
  let (values, sink) := session.sink.flush
  (values, { session with sink := sink })

/-- Releases the instance, and what was done for it. -/
def close (session : Session) : Except Panic Unit × List Activity :=
  let released := session.suite.hooks.teardown session.benchmark session.parameters session.calls
  Hooks.runInOrder [(.teardown session.calls, released)]

end Session

end Microbench
