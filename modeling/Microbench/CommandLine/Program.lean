import Microbench.CommandLine.Basic
import Microbench.CommandLine.Surroundings

/-!
# The program

The program executes suites as its command line says: all of an execution, or one step of it.
-/

namespace Microbench

/-- Why the program does not succeed. -/
inductive ProgramError where
  /-- The runner configuration cannot be read. -/
  | noConfiguration (path : String)
  | wrongConfiguration (path : String) (error : SettingError)
  | wrongIndex (error : IndexError)
  | step (taken : Step) (error : ExecutorError)
  | execution (name : String) (error : ExecutorError)
deriving DecidableEq

namespace ProgramError

/-- The wording of an error, without its cause. -/
def message : ProgramError → String
  | .noConfiguration path => "failed to read runner configuration " ++ path
  | .wrongConfiguration path _ => "invalid runner configuration " ++ path
  | .wrongIndex error => error.message
  | .step taken _ => taken.keyword ++ " failed"
  | .execution name _ => "benchmark run '" ++ name ++ "' failed"

def cause? : ProgramError → Option ExecutorError
  | .noConfiguration _ | .wrongIndex _ => none
  | .wrongConfiguration _ error => some (.configuration error)
  | .step _ error | .execution _ error => some error

end ProgramError

/-- What has come of the program. -/
structure ProgramOutcome where
  ending : Except ProgramError Unit
  files : FileStore
  lines : List String
  /-- What was done to the code under measurement. -/
  journal : Journal

namespace ProgramOutcome

/-- Nothing was done. -/
def refused (error : ProgramError) (files : FileStore) : ProgramOutcome :=
  ⟨.error error, files, [], #[]⟩

/-- What has come of an execution, with its errors put as errors of the program. -/
def ofOutcome (outcome : Outcome) (wrap : ExecutorError → ProgramError) : ProgramOutcome :=
  ⟨outcome.ending.mapError wrap, outcome.files, outcome.lines, outcome.journal⟩

end ProgramOutcome

namespace CommandLine

variable [WorkingDirectory]

def loadConfiguration (commandLine : CommandLine) (files : FileStore) :
    Except ProgramError RunnerConfiguration :=
  let path := commandLine.configuration
  match files.read? path with
  | none => .error (.noConfiguration path)
  | some text => (RunnerConfiguration.parse text).mapError (.wrongConfiguration path)

/-- The paths of run descriptors that the files of the command line mention. -/
def mentionedPaths (commandLine : CommandLine) (files : FileStore) : List String :=
  let texts := commandLine.paths.filterMap files.read?
  (texts.flatMap resultLines).filterMap fun line =>
    match ResultLine.read line with
    | .ok line => some line.path
    | .error _ => none

def run (commandLine : CommandLine) (suites : List Suite) (files : FileStore) :
    ProgramOutcome :=
  match commandLine.loadConfiguration files with
  | .error error => .refused error files
  | .ok configuration =>
    let executor := Executor.create configuration suites
    match commandLine.request? with
    | .error error => .refused (.wrongIndex error) files
    | .ok none => .ofOutcome (executor.run files) (.execution executor.name)
    | .ok (some request) => .ofOutcome (executor.step files request) (.step request.step)

end CommandLine

end Microbench
