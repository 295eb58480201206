import Microbench.Runner.Executor
import Microbench.Runner.Samples

/-!
# Steps

An execution can be spread over processes, each of which takes one step.  The steps leave files
for each other: a descriptor of each run, the number of invocations in an iteration, samples, and
the cursor of the reporter, so that the progress of all steps reads like that of one process.
-/

namespace Microbench

/-- A step of an execution. -/
inductive Step where
  /-- Starts the execution and describes each run in a file of a directory. -/
  | list (directory : String)
  /-- Runs one iteration before the measured ones, and leaves the invocations in an iteration. -/
  | warmUp (runFile : String) (index : Nat) (resultFile : String)
  /-- Runs one measured iteration, and leaves its sample. -/
  | measure (runFile : String) (index : Nat) (cyclesFile resultFile : String)
  /-- Runs a whole run, and leaves its samples. -/
  | benchmark (runFile resultFile : String)
  | endRun (runFile samplesFile : String)
  | storeResults (resultsFile : String)
deriving DecidableEq

/-- A step, and the file in which steps leave the reporter's cursor. -/
structure StepRequest where
  progressFile : String
  step : Step
deriving DecidableEq

/-- The word that asks for a step. -/
def Step.keyword : Step → String
  | .list .. => "--list"
  | .warmUp .. => "--warmup"
  | .measure .. => "--iteration"
  | .benchmark .. => "--benchmark"
  | .endRun .. => "--end-run"
  | .storeResults .. => "--store-results"

namespace PlannedRun

/-- The name of the descriptor of a run, by its number among the runs of its benchmark. -/
def descriptorName (run : PlannedRun) (number : Nat) : String :=
  run.planned.suite.name ++ "_" ++ run.planned.benchmark.name ++ "_" ++ toString number ++
    ".json"

/-- Runs with the names of their descriptors; the numbers start again whenever the benchmark's
qualified name changes. -/
def withDescriptorNames (previous : String) (number : Nat) :
    List PlannedRun → List (String × PlannedRun)
  | [] => []
  | run :: runs =>
    let number := if run.name = previous then number else 0
    (run.descriptorName number, run) :: withDescriptorNames run.name (number + 1) runs

end PlannedRun

def FileFault.inFile {α : Type} (kind : FileKind) (path : String) :
    Except FileFault α → Except ExecutorError α
  | .ok value => .ok value
  | .error fault => .error (.malformed kind path fault)

namespace Executor

variable [PatternLanguage] [WorkingDirectory]

/-- The run that the text of a descriptor is about. -/
def runOf (executor : Executor) (path text : String) : Except ExecutorError PlannedRun :=
  match RunDescriptor.ofText? text with
  | none => .error (.malformed .descriptor path .noDescriptor)
  | some descriptor => do
    let selected ← selectBenchmarks executor.suites executor.configuration
    match selected.find? fun planned => planned.qualifiedName = descriptor.benchmark with
    | none => .error (.unknownBenchmark descriptor.benchmark)
    | some planned => .ok ⟨planned, descriptor.parameters, descriptor.settings⟩

def fetchRun (executor : Executor) (path : String) : Procedure PlannedRun := do
  let text ← Procedure.read path
  executor.runOf path text

/-- Keeps the result that a line of a file has. -/
def fetchResult (executor : Executor) (path : String) (line : List Char) : Procedure Unit := do
  let line ← FileFault.inFile .results path (ResultLine.read line)
  let samples ← FileFault.inFile .results path (Samples.read line.samples)
  let run ← executor.fetchRun line.path
  Procedure.keep (run.result samples)

/-- Keeps the results that lines have, up to the first line with a fault. -/
def fetchResults (executor : Executor) (path : String) : List (List Char) → Procedure Unit
  | [] => return
  | line :: lines => do
    executor.fetchResult path line
    executor.fetchResults path lines

/-- The number of invocations that a file has; 1 if the file is missing. -/
def fetchCycles (path : String) : Procedure UInt64 := do
  if ← Procedure.finds path then
    let text ← Procedure.read path
    FileFault.inFile .cycles path (readCycles text)
  else return 1

def fetchSamples (path : String) : Procedure (List Binary64) := do
  let text ← Procedure.read path
  FileFault.inFile .samples path (Samples.read text.toList)

/-- Leaves a number in a file; a failure is told, and leaves the word for no number. -/
def leave {α : Type} (executor : Executor) (run : PlannedRun) (text : α → String)
    (resultFile : String) : Except Failure α → Procedure Unit
  | .ok value => Procedure.save resultFile (text value)
  | .error failure => do
    Procedure.tell (run.failureCall executor.name failure)
    Procedure.save resultFile nullText

/-- Saves the descriptors of runs in a directory. -/
def describe (directory : String) : List (String × PlannedRun) → Procedure Unit
  | [] => return
  | (name, run) :: runs => do
    Procedure.save (joinPath directory name) run.descriptor.text
    describe directory runs

/-- Starts the execution and describes the runs. -/
def listRuns (executor : Executor) (directory : String) : Procedure Unit := do
  let runs ← selectRuns executor.suites executor.configuration
  Procedure.tell (.startSuite executor.name)
  describe directory (PlannedRun.withDescriptorNames "" 0 runs)

/-- Runs one iteration before the measured ones; the first of them starts the run. -/
def warmUp (executor : Executor) (runFile : String) (index : Nat) (resultFile : String) :
    Procedure Unit := do
  let run ← executor.fetchRun runFile
  Procedure.tellAll (if index = 0 then [run.startCall executor.name] else [])
  let outcome ← run.perform executor.name (run.warmUp index)
  executor.leave run (fun cycles => toString cycles.toNat) resultFile outcome

def measure (executor : Executor) (runFile : String) (index : Nat)
    (cyclesFile resultFile : String) : Procedure Unit := do
  let run ← executor.fetchRun runFile
  let cycles ← fetchCycles cyclesFile
  let outcome ← run.perform executor.name (run.measure index cycles)
  executor.leave run Samples.sampleText resultFile outcome

/-- Runs a whole run; one that fails leaves no samples. -/
def benchmark (executor : Executor) (runFile resultFile : String) : Procedure Unit := do
  let run ← executor.fetchRun runFile
  Procedure.tell (run.startCall executor.name)
  match ← run.perform executor.name run.execute with
  | .ok samples =>
    Procedure.save resultFile (Samples.text samples)
    Procedure.tell (run.successCall executor.name samples)
  | .error failure => Procedure.tell (run.failureCall executor.name failure)

def endRun (executor : Executor) (runFile samplesFile : String) : Procedure Unit := do
  let samples ← fetchSamples samplesFile
  let run ← executor.fetchRun runFile
  Procedure.tell (run.successCall executor.name samples)

/-- Ends the execution with the results that a file has. -/
def storeResults (executor : Executor) (resultsFile : String) : Procedure Unit := do
  let text ← Procedure.read resultsFile
  executor.fetchResults resultsFile (resultLines text)
  executor.complete

def take (executor : Executor) : Step → Procedure Unit
  | .list directory => executor.listRuns directory
  | .warmUp runFile index resultFile => executor.warmUp runFile index resultFile
  | .measure runFile index cyclesFile resultFile =>
    executor.measure runFile index cyclesFile resultFile
  | .benchmark runFile resultFile => executor.benchmark runFile resultFile
  | .endRun runFile samplesFile => executor.endRun runFile samplesFile
  | .storeResults resultsFile => executor.storeResults resultsFile

/-- The reporter goes on from the cursor in a file, if the file is there. -/
def resume (progressFile : String) : Procedure Unit := do
  if ← Procedure.finds progressFile then
    let text ← Procedure.read progressFile
    modify fun space => space.withReporter (space.reporter.restore (Cursor.decode text))

/-- Leaves the reporter's cursor in a file, if it has one. -/
def leaveCursor (progressFile : String) : Procedure Unit := do
  match (← get).reporter.cursor? with
  | some cursor => Procedure.save progressFile cursor.encode
  | none => return

def step (executor : Executor) (files : FileStore) (request : StepRequest) : Outcome :=
  executor.carryOut files do
    resume request.progressFile
    executor.take request.step
    leaveCursor request.progressFile

end Executor

end Microbench
