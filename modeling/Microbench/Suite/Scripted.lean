import Microbench.Suite.Basic
import Microbench.Text.Numeral

/-!
# Scripted suites

A suite can be written down as a script, without code: what each invocation costs, what it hands
to the sink, and where panics are raised.  Such a suite tries out a runner configuration.
-/

namespace Microbench

def scriptedPanic (payload : Payload) : Panic := ⟨payload, .elided⟩

/-- A benchmark written down as a script. -/
structure ScriptedBenchmark where
  name : String
  shape : Shape
  /-- The nanoseconds that invocations take, over and over. -/
  costs : List Nat
  /-- The parameter whose value multiplies the costs. -/
  costParameter? : Option String
  /-- The values that an invocation hands to the sink. -/
  handed : Nat
  /-- The invocation that panics, and what the panic carries. -/
  panic? : Option (Nat × Payload)

namespace ScriptedBenchmark

def total (costs : List Nat) : Nat := costs.foldl (· + ·) 0

/-- The sum of the costs of the first invocations. -/
def costOf (costs : List Nat) (invocations : Nat) : Nat :=
  invocations / costs.length * total costs + total (costs.take (invocations % costs.length))

/-- What costs are multiplied by: 1 unless the parameter has a count as its value. -/
def factor (script : ScriptedBenchmark) (parameters : ParameterSet) : Nat :=
  let text? := script.costParameter?.bind parameters.get?
  (text?.bind fun text => Numeral.readBelow? UInt64.size text.toList).getD 1

/-- The nanoseconds of a block, never more than the clock can show. -/
def elapsed (script : ScriptedBenchmark) (parameters : ParameterSet) (calls cycles : Nat) :
    UInt64 :=
  let cost := costOf script.costs (calls + cycles) - costOf script.costs calls
  .ofNat (min (cost * script.factor parameters) (UInt64.size - 1))

/-- What the invocation of a number does: it panics before it hands anything to the sink. -/
def invocation (script : ScriptedBenchmark) (call : Nat) : Invocation :=
  match script.panic? with
  | some (panicking, payload) =>
    if call = panicking then ⟨0, some (scriptedPanic payload)⟩ else ⟨script.handed, none⟩
  | none => ⟨script.handed, none⟩

/-- The benchmark that does what the script says. -/
def benchmark (script : ScriptedBenchmark) : Benchmark where
  name := script.name
  shape := script.shape
  invocation _ := script.invocation
  elapsed := script.elapsed

end ScriptedBenchmark

/-- The hooks of a suite. -/
inductive Hook where
  | construct
  /-- Gives the instance its parameters. -/
  | parametrize
  /-- Makes the instance ready. -/
  | setup
  | teardown
deriving DecidableEq

/-- A hook that panics. -/
structure ScriptedPanic where
  hook : Hook
  payload : Payload
  /-- The parameter and the value for which alone the hook panics. -/
  condition? : Option (String × String)

namespace ScriptedPanic

/-- Whether a hook panics on an instance with these parameters. -/
def applies (script : ScriptedPanic) (hook : Hook) (parameters : ParameterSet) : Bool :=
  script.hook = hook &&
    match script.condition? with
    | some (name, value) => parameters.get? name = some value
    | none => true

/-- The panic of a hook: the first that applies. -/
def find? (scripts : List ScriptedPanic) (hook : Hook) (parameters : ParameterSet) :
    Option Panic :=
  (scripts.find? (·.applies hook parameters)).map fun script => scriptedPanic script.payload

/-- The hooks that panic as scripted.  An instance has no parameters while it is made. -/
def hooks (scripts : List ScriptedPanic) : Hooks where
  construct := find? scripts .construct .empty
  parametrize := find? scripts .parametrize
  setup := find? scripts .setup
  teardown _ parameters _ := find? scripts .teardown parameters

end ScriptedPanic

/-- A suite written down as a script. -/
structure ScriptedSuite where
  name : String
  parameters : List (String × List String)
  defaults : Defaults
  panics : List ScriptedPanic
  benchmarks : List ScriptedBenchmark

/-- The suite that does what the script says. -/
def ScriptedSuite.suite (script : ScriptedSuite) : Suite :=
  let declared := script.parameters.foldl (fun suite (name, values) => suite.declare name values)
    (Suite.create script.name)
  { declared with
    defaults := script.defaults
    hooks := ScriptedPanic.hooks script.panics
    benchmarks := script.benchmarks.map ScriptedBenchmark.benchmark }

end Microbench
