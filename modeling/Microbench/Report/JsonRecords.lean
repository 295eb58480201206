import Microbench.Json.Basic
import Microbench.Report.Result

/-!
# Reports as JSON

An array with one object for each result.  Parameters and options are objects with one member for
each entry, in order, repeated names included.
-/

namespace Microbench.Report.JsonRecords

/-- Named texts as an object. -/
def ofEntries (entries : List (String × String)) : Json String :=
  .object (entries.map fun entry => (entry.1, .string entry.2))

def number (value : Float) : Json String := .ofNumber (.ofFloat value)

/-- The label of a percentage: two decimal places. -/
def percentLabel (percent : Float) : String := Amount.fixed percent 2 false

/-- What a result has measured. -/
def metric (result : RunResult) : Json String :=
  .object
    [("score", number result.score),
      ("scoreError", number result.error),
      ("scoreConfidence", .array [number result.confidence.1, number result.confidence.2]),
      ("scorePercentiles", .object (result.percentiles.entries.map fun entry =>
        (percentLabel entry.1, number entry.2))),
      ("scoreUnit", .string result.settings.unitText),
      ("rawData", .array [.array (result.samples.map .ofNumber)])]

def object (result : RunResult) : Json String :=
  let time := result.settings.iterationTime.text
  .object
    [("benchmark", .string result.benchmark),
      ("mode", .string result.settings.mode.short),
      ("warmupIterations", .ofNat result.settings.warmups.toNat),
      ("warmupTime", .string time),
      ("measurementIterations", .ofNat result.settings.iterations.toNat),
      ("measurementTime", .string time),
      ("params", ofEntries result.parameters.pairs),
      ("advanced", ofEntries result.settings.advanced.entries),
      ("primaryMetric", metric result),
      ("secondaryMetrics", .object [])]

def render (results : List RunResult) : String := Json.pretty (.array (results.map object))

end Microbench.Report.JsonRecords
