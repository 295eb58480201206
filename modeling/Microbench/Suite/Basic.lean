import Microbench.Failure.Basic
import Microbench.Parameter.Set
import Microbench.Parameter.Values
import Microbench.Settings.Basic

/-!
# Suites

A suite is one class of benchmarks: hooks that make an instance ready and release it, declared
parameters, default settings and the benchmarks themselves.  What a hook or a benchmark does is
given by what can be observed of it: whether it panics, what it hands to the sink and how long it
takes.
-/

namespace Microbench

/-- How a benchmark is called. -/
inductive Shape where
  /-- It returns a value. -/
  | plain
  /-- It returns a value and is given the sink, which takes the value too. -/
  | sinking
  /-- It completes later. -/
  | deferred
  /-- It completes later and is given the sink. -/
  | deferredSinking
deriving DecidableEq

namespace Shape

def takesSink : Shape → Bool
  | .sinking | .deferredSinking => true
  | .plain | .deferred => false

/-- Whether the benchmark completes later. -/
def isDeferred : Shape → Bool
  | .deferred | .deferredSinking => true
  | .plain | .sinking => false

/-- The returned values that the sink takes when an invocation completes. -/
def returned : Shape → Nat
  | .sinking => 1
  | .plain | .deferred | .deferredSinking => 0

end Shape

/-- One invocation of a benchmark. -/
structure Invocation where
  /-- The values that it hands to the sink, if it is given one. -/
  handed : Nat
  panic? : Option Panic

/-- A measurable operation. -/
structure Benchmark where
  name : String
  shape : Shape
  /-- What the invocation of this number does, from 1 for each instance. -/
  invocation : ParameterSet → Nat → Invocation
  /-- The nanoseconds that the clock shows for a block of invocations, by the number of earlier
  invocations and the size of the block. -/
  elapsed : ParameterSet → Nat → Nat → UInt64

/-- The panics of the hooks of a suite. -/
structure Hooks where
  construct : Option Panic
  parametrize : ParameterSet → Option Panic
  setup : ParameterSet → Option Panic
  /-- An instance is released after some invocations of a benchmark. -/
  teardown : Benchmark → ParameterSet → Nat → Option Panic

/-- Hooks that never panic. -/
def Hooks.quiet : Hooks := ⟨none, fun _ => none, fun _ => none, fun _ _ _ => none⟩

/-- A class of benchmarks. -/
structure Suite where
  name : String
  parameters : List String
  defaultValues : ParameterValues
  defaults : Defaults
  hooks : Hooks
  /-- The benchmarks, in the order in which they were added. -/
  benchmarks : List Benchmark

namespace Suite

/-- A suite without hooks, parameters and benchmarks. -/
def create (name : String) : Suite := ⟨name, [], .empty, .standard, .quiet, []⟩

/-- Declares a parameter; a repeated declaration replaces the values. -/
def declare (suite : Suite) (parameter : String) (values : List String) : Suite :=
  { suite with
    parameters :=
      if parameter ∈ suite.parameters then suite.parameters else suite.parameters ++ [parameter]
    defaultValues := suite.defaultValues.set parameter values }

def add (suite : Suite) (benchmark : Benchmark) : Suite :=
  { suite with benchmarks := suite.benchmarks ++ [benchmark] }

/-- The name by which patterns and reports know a benchmark. -/
def qualifiedName (suite : Suite) (benchmark : Benchmark) : String :=
  suite.name ++ "." ++ benchmark.name

/-- The settings of the suite's runs when nothing is overridden. -/
def settings (suite : Suite) : Settings := .resolve .none suite.defaults .empty

end Suite

end Microbench
