import Microbench.Proofs.Binary64.TotalOrder
import Microbench.Report.Result

/-!
# What statistics know of samples

Sums of floating-point numbers depend on the order of the numbers. Statistics do not depend on the
order of the samples all the same, because they only see the sorted list: in a total order that
tells all data apart there is one sorted list for all orders in which the samples may have been
taken. Nothing else is lost in it, so two lists of samples have the same statistics exactly if one
is a permutation of the other.
-/

namespace Microbench

namespace Statistics

theorem sorted_perm (samples : List Binary64) : (ofSamples samples).sorted.Perm samples :=
  List.mergeSort_perm samples Binary64.totalLE

theorem sorted_ofSamples_eq_iff {samples others : List Binary64} :
    (ofSamples samples).sorted = (ofSamples others).sorted ↔ samples.Perm others := by
  constructor
  · intro same
    have back := (sorted_perm samples).symm
    rw [same] at back
    exact back.trans (sorted_perm others)
  · intro perm
    have sorted := (sorted_perm samples).trans (perm.trans (sorted_perm others).symm)
    apply sorted.eq_of_pairwise
    · exact fun _ _ _ _ => Binary64.totalLE_antisymm
    · exact (ofSamples samples).isSorted
    · exact (ofSamples others).isSorted

theorem ofSamples_eq_iff {samples others : List Binary64} :
    ofSamples samples = ofSamples others ↔ samples.Perm others := by
  rw [← sorted_ofSamples_eq_iff, ofSamples, ofSamples, mk.injEq]

/-- Two statistics agree in all they can be asked for. Numbers agree bit by bit, so that zeros of
different signs are told apart. -/
structure Agree (first second : Statistics) : Prop where
  sorted : first.sorted = second.sorted
  min : first.min = second.min
  max : first.max = second.max
  mean : first.mean = second.mean
  median : first.median = second.median
  variance : first.variance = second.variance
  standardDeviation : first.standardDeviation = second.standardDeviation
  errorMargin : first.errorMargin = second.errorMargin
  confidenceInterval : first.confidenceInterval = second.confidenceInterval
  valueAt : ∀ quantile, first.valueAt quantile = second.valueAt quantile
  percentiles : PercentileTable.ofStatistics first = PercentileTable.ofStatistics second

theorem Agree.refl (statistics : Statistics) : Agree statistics statistics :=
  ⟨rfl, rfl, rfl, rfl, rfl, rfl, rfl, rfl, rfl, fun _ => rfl, rfl⟩

theorem agree_ofSamples_iff {samples others : List Binary64} :
    Agree (ofSamples samples) (ofSamples others) ↔ samples.Perm others := by
  constructor
  · intro agree
    exact sorted_ofSamples_eq_iff.mp agree.sorted
  · intro perm
    rw [ofSamples_eq_iff.mpr perm]
    exact .refl _

end Statistics

namespace RunResult

/-- Results of the same samples in different orders differ in this order only. -/
theorem ofSamples_of_perm {samples others : List Binary64} (perm : samples.Perm others)
    (benchmark : String) (parameters : ParameterSet) (settings : Settings) :
    ofSamples benchmark parameters settings others =
      { ofSamples benchmark parameters settings samples with samples := others } := by
  simp only [ofSamples, Statistics.ofSamples_eq_iff.mpr perm]

/-- The sorted samples are the samples in the total order. Statistics agree exactly on permutations
of the same samples; the results then have the same statistics, and each keeps the order of its own
samples. -/
theorem statistics_agree_iff_perm (samples : List Binary64) :
    (Statistics.ofSamples samples).sorted.Perm samples ∧
      (Statistics.ofSamples samples).sorted.Pairwise
        (fun first second => first = second ∨ first.Precedes second) ∧
      ∀ others, samples.Perm others ↔
        Statistics.Agree (.ofSamples samples) (.ofSamples others) ∧
          ∀ benchmark parameters settings,
            ofSamples benchmark parameters settings others =
              { ofSamples benchmark parameters settings samples with samples := others } := by
  refine ⟨Statistics.sorted_perm samples, ?_, ?_⟩
  · apply (Statistics.ofSamples samples).isSorted.imp
    exact Binary64.totalLE_iff.mp
  · intro others
    rw [Statistics.agree_ofSamples_iff]
    constructor
    · exact fun perm => ⟨perm, ofSamples_of_perm perm⟩
    · exact And.left

/-- Data that are no numbers have places of their own, and so have the two zeros. -/
example : (Statistics.ofSamples
    [⟨0x7ff8000000000001⟩, ⟨0⟩, ⟨0xfff8000000000000⟩, ⟨0x8000000000000000⟩,
      ⟨0x7ff8000000000000⟩]).sorted =
    [⟨0xfff8000000000000⟩, ⟨0x8000000000000000⟩, ⟨0⟩, ⟨0x7ff8000000000000⟩,
      ⟨0x7ff8000000000001⟩] := by cbv

end RunResult

end Microbench
