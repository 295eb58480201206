import Microbench.Binary64.Basic
import Microbench.Binary64.Shortest
import Microbench.Statistics.Quantile

/-!
# Statistics of samples

Samples are sorted once by the total order of data; every statistic is computed from the sorted
list, in its order, so it does not depend on the order in which the samples were taken.  Each
statistic of no samples is zero.
-/

namespace Microbench

/-- The samples of a run, sorted. -/
structure Statistics where
  /-- The samples in ascending order. -/
  sorted : List Binary64
  /-- The order is the total order of data. -/
  isSorted : sorted.Pairwise (fun first second => first.totalLE second)

namespace Statistics

def ofSamples (samples : List Binary64) : Statistics where
  sorted := samples.mergeSort Binary64.totalLE
  isSorted := List.pairwise_mergeSort Binary64.totalLE_trans Binary64.totalLE_total samples

/-- The number of samples. -/
def count (statistics : Statistics) : Nat := statistics.sorted.length

/-- Whether there are no samples. -/
def isEmpty (statistics : Statistics) : Bool := statistics.sorted.isEmpty

/-- The sorted samples as numbers. -/
def values (statistics : Statistics) : List Float := statistics.sorted.map Binary64.toFloat

/-- The sum of numbers from left to right; the sum of none is negative zero. -/
def sum (numbers : List Float) : Float := numbers.foldl (· + ·) (-0.0)

/-- The smallest sample. -/
def min (statistics : Statistics) : Float := statistics.values.headD 0

/-- The largest sample. -/
def max (statistics : Statistics) : Float := statistics.values.getLastD 0

def mean (statistics : Statistics) : Float :=
  if statistics.isEmpty then 0 else sum statistics.values / statistics.count.toFloat

/-- The variance with one degree of freedom less than there are samples. -/
def variance (statistics : Statistics) : Float :=
  if statistics.count ≤ 1 then 0
  else
    let mean := statistics.mean
    sum (statistics.values.map fun value => (value - mean) * (value - mean)) /
      (statistics.count - 1).toFloat

def standardDeviation (statistics : Statistics) : Float := statistics.variance.sqrt

/-- Two-sided critical value of the normal distribution at 95 percent. -/
def criticalValue : Float := 1.96

/-- Half the width of the confidence interval. -/
def errorMargin (statistics : Statistics) : Float :=
  if statistics.isEmpty then 0
  else criticalValue * statistics.standardDeviation / statistics.count.toFloat.sqrt

/-- The confidence interval around the mean. -/
def confidenceInterval (statistics : Statistics) : Float × Float :=
  (statistics.mean - statistics.errorMargin, statistics.mean + statistics.errorMargin)

/-- A fraction of one was asked for and something else was given. -/
structure NotAFraction where
  /-- What was given. -/
  quantile : Float

/-- What is wrong with the quantile. -/
def NotAFraction.message (error : NotAFraction) : String :=
  "quantile " ++ String.ofList (Binary64.ofFloat error.quantile).plain ++ " is not in [0..1]"

def valueAt (statistics : Statistics) (quantile : Float) : Except NotAFraction Float :=
  match Quantile.valueAt? statistics.values quantile with
  | some value => .ok value
  | none => .error ⟨quantile⟩

/-- The quantile one half. -/
def median (statistics : Statistics) : Float := Quantile.ofSorted statistics.values 0.5

end Statistics

end Microbench
