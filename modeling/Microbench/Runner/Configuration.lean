import Microbench.Parameter.Values
import Microbench.Report.Format
import Microbench.Runner.Entry
import Microbench.Settings.Basic

/-!
# Runner configurations

What a runner is asked to do: which benchmarks to select, which settings and parameter values to
override, how to show progress and where to write the report.
-/

namespace Microbench

/-- How progress is shown. -/
inductive TraceFormat where
  | text
  /-- Structured events for a host program. -/
  | xml
deriving DecidableEq, Inhabited

namespace TraceFormat

def all : List TraceFormat := [text, xml]

def name : TraceFormat → String
  | text => "text"
  | xml => "xml"

def parse (name : String) : Except SettingError TraceFormat :=
  match all.find? fun format => format.name == name with
  | some format => .ok format
  | none => .error (.unsupported "traceFormat" name (all.map TraceFormat.name))

end TraceFormat

/-- What a runner is asked to do. -/
structure RunnerConfiguration where
  name : String
  reportFile : String
  /-- How progress is shown. -/
  traceFormat : TraceFormat
  reportFormat : ReportFormat
  /-- Values that override those of suites. -/
  parameters : ParameterValues
  /-- Patterns one of which a benchmark's name has to match, if there are any. -/
  included : List String
  /-- Patterns none of which a benchmark's name may match. -/
  excluded : List String
  /-- Settings that override those of suites. -/
  overrides : Overrides
  advanced : AdvancedOptions
deriving DecidableEq, Inhabited

namespace RunnerConfiguration

open Runner

/-- The largest number of iterations. -/
def maxCount : Nat := 0x7fffffff

/-- The largest number of units of time. -/
def maxTime : Nat := 0x7fffffffffffffff

/-- Adds parameter values in order, up to the first whose name is blank. -/
def pushAll (parameters : ParameterValues) :
    List (String × String) → Except SettingError ParameterValues
  | [] => .ok parameters
  | (name, value) :: rest =>
    if Text.isBlank name.toList then .error (.blankParameter name)
    else pushAll (parameters.push name value) rest

/-- The report format that a value names; without a value, JSON. -/
def parseReportFormat (name : String) : Except SettingError ReportFormat :=
  match ReportFormat.parse name with
  | .ok format => .ok format
  | .error _ => .error (.unsupported "reportFormat" name (ReportFormat.all.map ReportFormat.name))

/-- The configuration that a text describes; of several errors, the first in this order counts. -/
def parse (text : String) : Except SettingError RunnerConfiguration := do
  let entries := Entry.ofText text
  let name ← single entries "name"
  let reportFile ← single entries "reportFile"
  let traceFormat ← (single entries "traceFormat").bind TraceFormat.parse
  let reportFormat ← parsed? entries "reportFormat" parseReportFormat
  let parameters ← (pairs entries "param").bind (pushAll .empty)
  let advanced ← (pairs entries "advanced").bind fun pairs =>
    (AdvancedOptions.empty.insertAll pairs).mapError .advanced
  let iterations ← parsed? entries "iterations" (parseNumber "iterations" .one maxCount)
  let warmups ← parsed? entries "warmups" (parseNumber "warmups" .zero maxCount)
  let iterationTime ← parsed? entries "iterationTime" (parseNumber "iterationTime" .one maxTime)
  let iterationTimeUnit ← parsed? entries "iterationTimeUnit" TimeUnit.parse
  let outputUnit ← parsed? entries "outputTimeUnit" TimeUnit.parse
  let mode ← parsed? entries "mode" Mode.parse
  let included ← patterns entries "include"
  let excluded ← patterns entries "exclude"
  return {
    name, reportFile, traceFormat, parameters, advanced, included, excluded
    reportFormat := reportFormat.getD .json
    overrides := {
      iterations := iterations.map UInt32.ofNat
      warmups := warmups.map UInt32.ofNat
      iterationTime := iterationTime.map UInt64.ofNat
      iterationTimeUnit, outputUnit, mode
    }
  }

/-- The settings of a suite's benchmarks. -/
def resolve (configuration : RunnerConfiguration) (defaults : Defaults) : Settings :=
  .resolve configuration.overrides defaults configuration.advanced

/-- A value that may be missing, in a line of its own. -/
def optionalLine (key : String) (value : Option String) : String :=
  key ++ ": " ++ value.getD "null" ++ "\n"

/-- The configuration in several lines. -/
def text (configuration : RunnerConfiguration) : String :=
  let overrides := configuration.overrides
  configuration.name ++ " -> " ++ configuration.reportFile ++ " (" ++
    configuration.traceFormat.name ++ ", " ++ configuration.reportFormat.name ++ ")\n" ++
    "params: \x7b" ++ ", ".intercalate (configuration.parameters.entries.map fun entry =>
      entry.1 ++ ": [" ++ ", ".intercalate entry.2 ++ "]") ++ "\x7d\n" ++
    "include: [" ++ ", ".intercalate configuration.included ++ "]\n" ++
    "exclude: [" ++ ", ".intercalate configuration.excluded ++ "]\n" ++
    optionalLine "iterations" (overrides.iterations.map fun n => toString n.toNat) ++
    optionalLine "warmups" (overrides.warmups.map fun n => toString n.toNat) ++
    optionalLine "iterationTime" (overrides.iterationTime.map fun n => toString n.toNat) ++
    optionalLine "iterationTimeUnit" (overrides.iterationTimeUnit.map TimeUnit.short) ++
    optionalLine "outputTimeUnit" (overrides.outputUnit.map TimeUnit.short) ++
    optionalLine "mode" (overrides.mode.map Mode.short) ++
    "advanced: \x7b" ++ ", ".intercalate (configuration.advanced.entries.map fun entry =>
      entry.1 ++ "=" ++ entry.2) ++ "\x7d\n"

end RunnerConfiguration

end Microbench
