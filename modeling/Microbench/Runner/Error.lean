import Microbench.Parameter.Odometer
import Microbench.Settings.Error

/-!
# Errors of an execution

What keeps an execution, or a step of one, from being completed.
-/

namespace Microbench

/-- The files that steps leave for each other. -/
inductive FileKind where
  | descriptor
  | cycles
  | samples
  | results
deriving DecidableEq

def FileKind.name : FileKind → String
  | .descriptor => "run descriptor"
  | .cycles => "cycles"
  | .samples => "samples"
  | .results => "results"

/-- What is wrong with the text of a file. -/
inductive FileFault where
  /-- It does not describe a run. -/
  | noDescriptor
  | noCount (text : String)
  | noSamples
  | noSample (text : String)
  /-- A line does not name a run and its samples. -/
  | noResult (line : String)
deriving DecidableEq

/-- The wording of a fault; there is nothing to say about a run descriptor. -/
def FileFault.detail? : FileFault → Option String
  | .noDescriptor => none
  | .noCount text => some ("'" ++ text ++ "' is not a cycle count")
  | .noSamples => some "no samples"
  | .noSample text => some ("'" ++ text ++ "' is not a sample")
  | .noResult line => some ("expected '<run-file>: <samples>', found '" ++ line ++ "'")

/-- What keeps an execution from being completed. -/
inductive ExecutorError where
  | configuration (error : SettingError)
  | parameter (error : NoValues)
  /-- A pattern cannot be read. -/
  | pattern
  /-- A run descriptor names a benchmark that is not selected. -/
  | unknownBenchmark (name : String)
  /-- A file cannot be read. -/
  | unreadable (path : String)
  /-- A file cannot be written. -/
  | unwritable (path : String)
  | malformed (kind : FileKind) (path : String) (fault : FileFault)
deriving DecidableEq

def ExecutorError.message : ExecutorError → String
  | .configuration error => error.message
  | .parameter error => error.message
  | .pattern => "invalid benchmark pattern"
  | .unknownBenchmark name => "Benchmark " ++ name ++ " wasn't found."
  | .unreadable path => "failed to read " ++ path
  | .unwritable path => "failed to write " ++ path
  | .malformed kind path fault =>
    let place := "malformed " ++ kind.name ++ " file " ++ path
    match fault.detail? with
    | some detail => place ++ ": " ++ detail
    | none => place

end Microbench
