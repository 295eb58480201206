import Microbench.Measurement.Execution
import Microbench.Parameter.Odometer
import Microbench.Progress.Call
import Microbench.Report.Result
import Microbench.Runner.Configuration
import Microbench.Runner.Descriptor
import Microbench.Runner.Error
import Microbench.Runner.Plan

/-!
# Runs

A run is a selected benchmark with one choice of parameter values.  An execution reports a run's
start, its lines of output and its end; a run that fails is reported and leaves no result.
-/

namespace Microbench

/-- A selected benchmark with one choice of parameter values. -/
structure PlannedRun where
  planned : PlannedBenchmark
  parameters : ParameterSet
  settings : Settings

namespace PlannedRun

def name (run : PlannedRun) : String := run.planned.qualifiedName

def id (run : PlannedRun) : String := runId run.name run.parameters

/-- What tells a later step what the run is. -/
def descriptor (run : PlannedRun) : RunDescriptor := ⟨run.name, run.settings, run.parameters⟩

/-- The result of the run if it takes some samples. -/
def result (run : PlannedRun) (samples : List Binary64) : RunResult :=
  .ofSamples run.name run.parameters run.settings samples

def execute (run : PlannedRun) : Execution (List Binary64) :=
  .run run.planned.suite run.planned.index run.parameters run.settings

/-- One iteration before the measured ones. -/
def warmUp (run : PlannedRun) (warmup : Nat) : Execution UInt64 :=
  .warmUp run.planned.suite run.planned.index run.parameters run.settings warmup

def measure (run : PlannedRun) (iteration : Nat) (cycles : UInt64) : Execution Binary64 :=
  .measure run.planned.suite run.planned.index run.parameters run.settings iteration cycles

/-- The report of the run's start, in an execution of some name. -/
def startCall (run : PlannedRun) (execution : String) : ReporterCall :=
  .startBenchmark execution run.id

/-- The report of lines of the run's output. -/
def outputCalls (run : PlannedRun) (execution : String) (lines : List String) :
    List ReporterCall :=
  lines.map fun line => .output execution run.id line

/-- The report of the run's normal end. -/
def successCall (run : PlannedRun) (execution : String) (samples : List Binary64) :
    ReporterCall :=
  .endBenchmark execution run.id .success (run.result samples).summary

/-- The report of the run's early end. -/
def failureCall (run : PlannedRun) (execution : String) (failure : Failure) : ReporterCall :=
  .endException execution run.id failure.message failure.trace

end PlannedRun

/-- All runs of a benchmark, in the order of the odometer. -/
def PlannedBenchmark.runs (configuration : RunnerConfiguration) (planned : PlannedBenchmark) :
    Except ExecutorError (List PlannedRun) :=
  let suite := planned.suite
  let settings := configuration.resolve suite.defaults
  match Odometer.start suite.parameters configuration.parameters suite.defaultValues with
  | .error error => .error (.parameter error)
  | .ok odometer => .ok (odometer.readings.map fun parameters => ⟨planned, parameters, settings⟩)

/-- The runs of benchmarks, up to the first whose parameters lack values. -/
def PlannedBenchmark.allRuns (configuration : RunnerConfiguration) :
    List PlannedBenchmark → Except ExecutorError (List PlannedRun)
  | [] => .ok []
  | planned :: others =>
    match planned.runs configuration with
    | .error error => .error error
    | .ok runs => (allRuns configuration others).map (runs ++ ·)

def selectBenchmarks [PatternLanguage] (suites : List Suite)
    (configuration : RunnerConfiguration) :
    Except ExecutorError (List PlannedBenchmark) :=
  match Selection.read? configuration.included configuration.excluded with
  | none => .error .pattern
  | some selection => .ok (plan selection suites)

def selectRuns [PatternLanguage] (suites : List Suite) (configuration : RunnerConfiguration) :
    Except ExecutorError (List PlannedRun) :=
  match selectBenchmarks suites configuration with
  | .error error => .error error
  | .ok planned => PlannedBenchmark.allRuns configuration planned

end Microbench
