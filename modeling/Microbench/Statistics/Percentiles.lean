import Microbench.Statistics.Summary

/-!
# The percentile table

Every result lists the same quantiles of its samples, as percentages in ascending order.
-/

namespace Microbench

/-- The listed percentages with their values. -/
structure PercentileTable where
  /-- Percentages and values in ascending order of the percentages. -/
  entries : List (Float × Float)

namespace PercentileTable

def listed : List Float := [0, 0.25, 0.5, 0.75, 0.90, 0.99, 0.999, 0.9999, 1]

def ofStatistics (statistics : Statistics) : PercentileTable :=
  ⟨listed.map fun quantile => (quantile * 100, Quantile.ofSorted statistics.values quantile)⟩

def ofSamples (samples : List Binary64) : PercentileTable := ofStatistics (.ofSamples samples)

/-- Largest distance at which a percentage is taken for a listed one. -/
def tolerance : Float := 1e-9

/-- The value at a percentage, if it is listed. -/
def get? (table : PercentileTable) (percent : Float) : Option Float :=
  (table.entries.find? fun entry => (entry.1 - percent).abs < tolerance).map Prod.snd

end PercentileTable

end Microbench
