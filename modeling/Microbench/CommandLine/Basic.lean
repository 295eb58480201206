import Microbench.Runner.Step
import Microbench.Text.Numeral

/-!
# Command lines

A command line names a runner configuration, may ask for more to be logged, and may ask for one
step of an execution instead of all of it.
-/

namespace Microbench

/-- What a command line can ask for instead of a whole execution. -/
inductive Action where
  | list
  /-- Run an iteration before the measured ones. -/
  | warmUp
  | measure
  | benchmark
  | endRun
  | storeResults
deriving DecidableEq

namespace Action

def all : List Action := [list, warmUp, measure, benchmark, endRun, storeResults]

/-- The name of an action's option. -/
def name : Action → String
  | list => "list"
  | warmUp => "warmup"
  | measure => "iteration"
  | benchmark => "benchmark"
  | endRun => "end-run"
  | storeResults => "store-results"

/-- How many values an action's option takes. -/
def arity : Action → Nat
  | list => 2
  | warmUp => 4
  | measure => 5
  | benchmark => 3
  | endRun => 3
  | storeResults => 2

def ofName? (name : String) : Option Action := all.find? fun action => action.name == name

end Action

/-- Why a command line is not carried out. -/
inductive UsageError where
  | missingArgument
  /-- An argument is not known, or is one too many. -/
  | unknownArgument
  /-- Two actions are asked for, or a flag is given twice. -/
  | conflict
  /-- An action has some of its values only. -/
  | wrongCount
  /-- An action has no values, or the configuration has no name. -/
  | noValue
  | tooManyValues
  | help
  | version
deriving DecidableEq

/-- The wording of an error; help and the version are not errors in themselves. -/
def UsageError.message : UsageError → String
  | .missingArgument => "a runner configuration is required"
  | .unknownArgument => "unexpected argument"
  | .conflict => "arguments that cannot be used together"
  | .wrongCount => "wrong number of values for an action"
  | .noValue => "a value is required"
  | .tooManyValues => "a flag takes no value"
  | .help => "help"
  | .version => "version"

/-- What a command line says. -/
structure CommandLine where
  configuration : String
  /-- Whether more is to be logged. -/
  isVerbose : Bool
  action? : Option (Action × List String)
deriving DecidableEq

/-- The index of an iteration is no such number. -/
structure IndexError where
  /-- What the index is of. -/
  kind : String
  /-- The text in its place. -/
  text : String
deriving DecidableEq

def IndexError.message (error : IndexError) : String :=
  "invalid " ++ error.kind ++ " index '" ++ error.text ++ "'"

def readIndex (kind text : String) : Except IndexError Nat :=
  match Numeral.readBelow? UInt32.size text.toList with
  | some index => .ok index
  | none => .error ⟨kind, text⟩

def Action.request (action : Action) (values : List String) : Except IndexError StepRequest := do
  let value (index : Nat) := values.getD index ""
  let step : Step ← match action with
    | .list => pure (.list (value 1))
    | .warmUp => pure (.warmUp (value 1) (← readIndex "warm-up" (value 2)) (value 3))
    | .measure =>
      pure (.measure (value 1) (← readIndex "iteration" (value 2)) (value 3) (value 4))
    | .benchmark => pure (.benchmark (value 1) (value 2))
    | .endRun => pure (.endRun (value 1) (value 2))
    | .storeResults => pure (.storeResults (value 1))
  return ⟨value 0, step⟩

def CommandLine.paths (commandLine : CommandLine) : List String :=
  commandLine.configuration :: (commandLine.action?.map (·.2)).getD []

def CommandLine.request? (commandLine : CommandLine) : Except IndexError (Option StepRequest) :=
  match commandLine.action? with
  | none => .ok none
  | some (action, values) => (action.request values).map some

end Microbench
