import Microbench.Runner.Procedure
import Microbench.Runner.Run

/-!
# Executors

An executor runs what its configuration selects, one run after the other, and writes a report.
Runs know nothing of each other: a run that fails is reported, and the others go on.
-/

namespace Microbench

/-- What executes registered suites. -/
structure Executor where
  name : String
  configuration : RunnerConfiguration
  suites : List Suite
  reporter : Reporter
  results : List RunResult

/-- What has come of an execution or a step of one. -/
structure Outcome where
  executor : Executor
  files : FileStore
  lines : List String
  /-- Everything that has happened, in order. -/
  trace : List Occurrence
  ending : Except ExecutorError Unit

/-- What was done to the code under measurement. -/
def Outcome.journal (outcome : Outcome) : Journal :=
  (outcome.trace.flatMap Occurrence.activities).toArray

/-- Runs the code of a run, in an execution of some name; what it has to say is told. -/
def PlannedRun.perform {α : Type} (run : PlannedRun) (name : String) (execution : Execution α) :
    Procedure (Except Failure α) := do
  Procedure.note (.ran execution.journal)
  Procedure.tellAll (run.outputCalls name execution.lines)
  return execution.outcome

namespace Executor

def create (configuration : RunnerConfiguration) (suites : List Suite) : Executor where
  name := configuration.name
  configuration := configuration
  suites := suites
  reporter := .create configuration.traceFormat
  results := []

/-- Executes a run, and keeps the result unless the run fails. -/
def execute (executor : Executor) (run : PlannedRun) : Procedure Unit := do
  Procedure.tell (run.startCall executor.name)
  match ← run.perform executor.name run.execute with
  | .ok samples =>
    Procedure.tell (run.successCall executor.name samples)
    Procedure.keep (run.result samples)
  | .error failure => Procedure.tell (run.failureCall executor.name failure)

def executeAll (executor : Executor) : List PlannedRun → Procedure Unit
  | [] => return
  | run :: runs => do
    executor.execute run
    executor.executeAll runs

/-- Completes an execution with the results that are known. -/
def complete [WorkingDirectory] (executor : Executor) : Procedure Unit := do
  let results := (← get).results
  Procedure.tell (.endSuite executor.name (ReportFormat.text.render results))
  Procedure.save executor.configuration.reportFile
    (executor.configuration.reportFormat.render results)

/-- The execution of all selected runs in this process; it forgets earlier results. -/
def execution [PatternLanguage] [WorkingDirectory] (executor : Executor) : Procedure Unit := do
  let runs ← selectRuns executor.suites executor.configuration
  modify fun space => space.withResults []
  Procedure.tell (.startSuite executor.name)
  executor.executeAll runs
  executor.complete

/-- What an executor begins with. -/
def workspace (executor : Executor) (files : FileStore) : Workspace :=
  ⟨files, executor.reporter, [], executor.results, []⟩

/-- What has come of a procedure of the executor. -/
def outcomeOf (executor : Executor) (performed : Except ExecutorError Unit × Workspace) :
    Outcome where
  executor :=
    { executor with reporter := performed.2.reporter, results := performed.2.results }
  files := performed.2.files
  lines := performed.2.lines
  trace := performed.2.trace
  ending := performed.1

/-- Lets the executor perform a procedure. -/
def carryOut (executor : Executor) (files : FileStore) (procedure : Procedure Unit) : Outcome :=
  executor.outcomeOf (procedure.perform (executor.workspace files))

/-- Executes all selected runs in this process. -/
def run [PatternLanguage] [WorkingDirectory] (executor : Executor) (files : FileStore) :
    Outcome :=
  executor.carryOut files executor.execution

end Executor

end Microbench
