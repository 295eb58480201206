import Microbench.Settings.TimeUnit
import Microbench.Text.Amount

/-!
# Modes of measurement

A mode says what a sample counts: operations in a unit of time, or units of time for an operation.
-/

namespace Microbench

/-- What a sample counts. -/
inductive Mode where
  /-- Operations in a unit of time. -/
  | throughput
  /-- Units of time for an operation. -/
  | averageTime
deriving DecidableEq, Inhabited

namespace Mode

def all : List Mode := [throughput, averageTime]

/-- The mode's label. -/
def short : Mode → String
  | throughput => "thrpt"
  | averageTime => "avgt"

/-- The mode's name in files. -/
def name : Mode → String
  | throughput => "Throughput"
  | averageTime => "AverageTime"

/-- The literals that stand for the mode in settings. -/
def literals (mode : Mode) : List String := [mode.short, mode.name]

def ofName? (text : String) : Option Mode := all.find? fun mode => mode.name == text

/-- The mode that a literal in settings stands for. -/
def parse (text : String) : Except SettingError Mode :=
  match all.find? fun mode => mode.literals.contains text with
  | some mode => .ok mode
  | none => .error (.unsupported "mode" text (all.flatMap literals))

/-- The sample for an operation that takes `nanos` nanoseconds. -/
def sample (mode : Mode) (unit : TimeUnit) (nanos : Float) : Float :=
  match mode with
  | throughput => unit.multiplier / nanos
  | averageTime => nanos / unit.multiplier

/-- The label of samples. -/
def unitText (mode : Mode) (unit : TimeUnit) : String :=
  match mode with
  | throughput => "ops/" ++ unit.short
  | averageTime => unit.short ++ "/op"

/-- Significant digits of samples in texts. -/
def sampleDigits : Nat := 6

/-- A sample with its label. -/
def sampleText (mode : Mode) (unit : TimeUnit) (sample : Float) : String :=
  Amount.significant sample sampleDigits ++ " " ++ mode.unitText unit

end Mode

end Microbench
