import Microbench.Parameter.Set
import Microbench.Settings.Basic
import Microbench.Statistics.Percentiles

/-!
# Results of runs

The samples of a successful run with the statistics that reports show.
-/

namespace Microbench

/-- What a successful run has measured. -/
structure RunResult where
  benchmark : String
  parameters : ParameterSet
  settings : Settings
  /-- The mean of the samples. -/
  score : Float
  /-- Half the width of the confidence interval. -/
  error : Float
  confidence : Float × Float
  percentiles : PercentileTable
  /-- The samples in the order in which they were taken. -/
  samples : List Binary64

namespace RunResult

/-- The result of a run that took some samples. -/
def ofSamples (benchmark : String) (parameters : ParameterSet) (settings : Settings)
    (samples : List Binary64) : RunResult :=
  let statistics := Statistics.ofSamples samples
  { benchmark, parameters, settings, samples
    score := statistics.mean
    error := statistics.errorMargin
    confidence := statistics.confidenceInterval
    percentiles := .ofStatistics statistics }

def id (result : RunResult) : String := runId result.benchmark result.parameters

/-- Significant digits of the relative error. -/
def relativeErrorDigits : Nat := 2

/-- The score with the relative error, which is left out when the error is negligible. -/
def summary (result : RunResult) : String :=
  let score := "  ~ " ++ result.settings.sampleText result.score
  if Amount.isNaNOrZero result.error then score
  else
    score ++ " ±" ++
      Amount.significant (result.error / result.score * 100) relativeErrorDigits ++ "%"

/-- The names of the parameters of results, each once, in the order of their first use. -/
def parameterNames (results : List RunResult) : List String :=
  (results.flatMap fun result => Entries.names result.parameters.pairs).foldl
    (fun names name => if name ∈ names then names else names ++ [name]) []

end RunResult

end Microbench
