import Mathlib.Algebra.Order.Field.Basic
import Mathlib.Algebra.Order.Ring.Rat
import Mathlib.Data.List.Sort
import Mathlib.Order.Bounds.Defs
import Mathlib.Tactic.FieldSimp
import Mathlib.Tactic.Linarith
import Mathlib.Tactic.Ring
import Microbench.Statistics.Quantile

/-!
# Laws of quantiles

In exact arithmetic the quantiles of samples are a broken line: it goes through the sorted samples
at the whole positions, and is level before the first and after the last. With the first and the
last sample repeated outwards one formula gives every segment, so a position may be put into either
of the two segments that it lies on the border of. The laws follow from what one segment does and
from the order of the samples.
-/

namespace Microbench.Quantile

section Lookups

variable {α : Type} [Scalar α]

/-- The value at a position, with nothing where a sample is looked up that is not there. -/
def lookup? (sorted : List α) (place : α) : Option α :=
  let index := Scalar.whole place
  if index < 1 then sorted[0]?
  else if sorted.length ≤ index then sorted[sorted.length - 1]?
  else
    sorted[index - 1]?.bind fun lower => sorted[index]?.map fun upper =>
      between lower upper (place - Scalar.ofNat index)

/-- Every sample that is looked up is there. -/
theorem lookup?_cons (first : α) (rest : List α) (place : α) :
    lookup? (first :: rest) place = some (interpolate first rest place) := by
  simp only [lookup?, interpolate, List.getD_eq_getElem?_getD]
  split
  · rfl
  · split
    · rw [← List.getLast?_eq_getElem?, List.getLastD_eq_getLast?,
        List.getLast?_eq_some_getLast (List.cons_ne_nil _ _), Option.getD_some]
    · rename_i inside
      have here : Scalar.whole place < (first :: rest).length := by omega
      have before : Scalar.whole place - 1 < (first :: rest).length := by omega
      rw [List.getElem?_eq_getElem before, List.getElem?_eq_getElem here]
      rfl

end Lookups

/-! ## Segments -/

/-- The sample with a number, counted from one, where the first one stands before the first as
well, and the last one after the last. -/
def sampleAt (sorted : List ℚ) (number : ℕ) : ℚ :=
  sorted.getD (min (number - 1) (sorted.length - 1)) 0

/-- The line through a sample and the next one. -/
def segment (sorted : List ℚ) (number : ℕ) (place : ℚ) : ℚ :=
  sampleAt sorted number +
    (place - number) * (sampleAt sorted (number + 1) - sampleAt sorted number)

variable {sorted : List ℚ}

theorem sampleAt_eq {number : ℕ} (inside : number < sorted.length) :
    sampleAt sorted (number + 1) = sorted[number] := by
  have index : min (number + 1 - 1) (sorted.length - 1) = number := by omega
  rw [sampleAt, index, List.getD_eq_getElem?_getD, List.getElem?_eq_getElem inside,
    Option.getD_some]

/-- Outside of the samples the nearest one goes on. -/
theorem sampleAt_clamped (number : ℕ) :
    sampleAt sorted number = sampleAt sorted (min (number - 1) (sorted.length - 1) + 1) := by
  have index : min (min (number - 1) (sorted.length - 1) + 1 - 1) (sorted.length - 1) =
      min (number - 1) (sorted.length - 1) := by omega
  rw [sampleAt, sampleAt, index]

theorem sampleAt_mono (ascending : sorted.Pairwise (· ≤ ·)) {number later : ℕ}
    (le : number ≤ later) : sampleAt sorted number ≤ sampleAt sorted later := by
  cases solid : sorted.length with
  | zero =>
      rw [List.length_eq_zero_iff] at solid
      subst solid
      exact le_refl _
  | succ count =>
      rw [sampleAt_clamped number, sampleAt_clamped later, sampleAt_eq (by omega),
        sampleAt_eq (by omega)]
      exact ascending.sortedLE.getElem_le_getElem_of_le (by omega)

theorem segment_start (number : ℕ) : segment sorted number number = sampleAt sorted number := by
  rw [segment, sub_self, zero_mul, add_zero]

theorem segment_end (number : ℕ) :
    segment sorted number (number + 1 : ℕ) = segment sorted (number + 1) (number + 1 : ℕ) := by
  rw [segment_start, segment]
  push_cast
  ring

theorem segment_mono (ascending : sorted.Pairwise (· ≤ ·)) (number : ℕ) {place later : ℚ}
    (le : place ≤ later) : segment sorted number place ≤ segment sorted number later := by
  have rise := sampleAt_mono ascending (Nat.le_succ number)
  have product : (place - number) * (sampleAt sorted (number + 1) - sampleAt sorted number) ≤
      (later - number) * (sampleAt sorted (number + 1) - sampleAt sorted number) := by
    apply mul_le_mul_of_nonneg_right
    · linarith
    · linarith
  exact add_le_add_right product _

theorem whole_eq {place : ℚ} {number : ℕ} (low : (number : ℚ) ≤ place) (high : place < number + 1) :
    Scalar.whole place = number := by
  have floor : place.floor = number := by
    apply le_antisymm
    · have below : place.floor < (number : ℤ) + 1 := by
        rw [Rat.floor_lt_iff]
        push_cast
        exact high
      omega
    · rw [Rat.le_floor_iff]
      exact_mod_cast low
  change place.floor.toNat = number
  rw [floor, Int.toNat_natCast]

theorem exists_whole {place : ℚ} (nonnegative : 0 ≤ place) :
    ∃ number : ℕ, (number : ℚ) ≤ place ∧ place < number + 1 := by
  have floor : 0 ≤ place.floor := Rat.le_floor_iff.mpr (by exact_mod_cast nonnegative)
  rcases Int.eq_ofNat_of_zero_le floor with ⟨number, same⟩
  refine ⟨number, ?_, ?_⟩
  · have le := Rat.floor_le place
    rw [same] at le
    exact_mod_cast le
  · have lt := Rat.lt_floor_add_one place
    rw [same] at lt
    exact_mod_cast lt

theorem interpolate_eq {first : ℚ} {rest : List ℚ} {place : ℚ} {number : ℕ}
    (low : (number : ℚ) ≤ place) (high : place < number + 1) :
    interpolate first rest place = segment (first :: rest) number place := by
  have level (same : sampleAt (first :: rest) (number + 1) = sampleAt (first :: rest) number) :
      segment (first :: rest) number place = sampleAt (first :: rest) number := by
    rw [segment, same, sub_self, mul_zero, add_zero]
  simp only [interpolate, whole_eq low high]
  split
  · rename_i least
    have zero : number = 0 := by omega
    subst zero
    rw [level rfl]
    rfl
  · split
    · rename_i positive last
      have same : sampleAt (first :: rest) (number + 1) = sampleAt (first :: rest) number := by
        rw [sampleAt_clamped, sampleAt_clamped number]
        congr 2
        omega
      have index : min (number - 1) ((first :: rest).length - 1) = (first :: rest).length - 1 := by
        omega
      rw [level same, sampleAt, index, List.getD_eq_getElem?_getD, ← List.getLast?_eq_getElem?,
        List.getLastD_eq_getLast?, List.getLast?_eq_some_getLast (List.cons_ne_nil _ _)]
      rfl
    · rename_i positive inside
      have lower : min (number - 1) ((first :: rest).length - 1) = number - 1 := by omega
      have upper : min (number + 1 - 1) ((first :: rest).length - 1) = number := by omega
      have here : number < (first :: rest).length := by omega
      have before : number - 1 < (first :: rest).length := by omega
      simp only [List.getD_eq_getElem?_getD, segment, sampleAt, lower, upper,
        List.getElem?_eq_getElem here, List.getElem?_eq_getElem before, Option.getD_some]
      rfl

/-- A quantile lies on a segment that its position belongs to, whichever this is on a border. -/
theorem ofSorted_eq (solid : sorted ≠ []) {quantile : ℚ} {number : ℕ}
    (low : (number : ℚ) ≤ quantile * (sorted.length + 1))
    (high : quantile * (sorted.length + 1) ≤ number + 1) :
    ofSorted sorted quantile = segment sorted number (quantile * (sorted.length + 1)) := by
  cases sorted with
  | nil => exact absurd rfl solid
  | cons first rest =>
      have place : position (rest.length + 1) quantile =
          quantile * ((first :: rest).length + 1) := by
        change quantile * ((rest.length + 1 + 1 : ℕ) : ℚ) = _
        rw [List.length_cons]
        push_cast
        rfl
      rw [ofSorted, place]
      rcases high.lt_or_eq with inside | border
      · exact interpolate_eq low inside
      · have next : quantile * ((first :: rest).length + 1) = (number + 1 : ℕ) := by
          rw [border]
          push_cast
          rfl
        rw [next, segment_end]
        apply interpolate_eq
        · exact le_refl _
        · exact lt_add_one _

theorem ofSorted_eq_sampleAt (solid : sorted ≠ []) {quantile : ℚ} {number : ℕ}
    (whole : quantile * (sorted.length + 1) = number) :
    ofSorted sorted quantile = sampleAt sorted number := by
  rw [ofSorted_eq solid whole.ge (by linarith), whole, segment_start]

theorem ofSorted_mono (solid : sorted ≠ []) (ascending : sorted.Pairwise (· ≤ ·))
    {quantile later : ℚ} (nonnegative : 0 ≤ quantile) (le : quantile ≤ later) :
    ofSorted sorted quantile ≤ ofSorted sorted later := by
  have positive : (0 : ℚ) < sorted.length + 1 := by positivity
  have places : quantile * (sorted.length + 1) ≤ later * (sorted.length + 1) :=
    mul_le_mul_of_nonneg_right le positive.le
  rcases exists_whole (mul_nonneg nonnegative positive.le) with ⟨number, low, high⟩
  rcases exists_whole (mul_nonneg (nonnegative.trans le) positive.le) with
    ⟨laterNumber, laterLow, laterHigh⟩
  rw [ofSorted_eq solid low high.le, ofSorted_eq solid laterLow laterHigh.le]
  have numbers : number < laterNumber + 1 := by
    exact_mod_cast low.trans_lt (places.trans_lt laterHigh)
  rcases (Nat.lt_succ_iff.mp numbers).eq_or_lt with same | apart
  · rw [← same]
    exact segment_mono ascending number places
  · -- The end of the first segment and the start of the second one are samples between the values.
    calc segment sorted number (quantile * (sorted.length + 1))
        ≤ segment sorted number (number + 1 : ℕ) := by
          apply segment_mono ascending
          push_cast
          exact high.le
      _ = sampleAt sorted (number + 1) := by rw [segment_end, segment_start]
      _ ≤ sampleAt sorted laterNumber := sampleAt_mono ascending apart
      _ = segment sorted laterNumber laterNumber := (segment_start laterNumber).symm
      _ ≤ segment sorted laterNumber (later * (sorted.length + 1)) :=
          segment_mono ascending laterNumber laterLow

/-! ## Mirrored samples -/

theorem sampleAt_mirrored (solid : sorted ≠ []) {number : ℕ} (inside : number ≤ sorted.length + 1) :
    sampleAt (sorted.map Neg.neg).reverse number =
      -sampleAt sorted (sorted.length + 1 - number) := by
  have positive : 0 < sorted.length := List.length_pos_iff.mpr solid
  have opposite : sorted.length - 1 - min (number - 1) (sorted.length - 1) =
      min (sorted.length + 1 - number - 1) (sorted.length - 1) := by omega
  have size : (sorted.map Neg.neg).reverse.length = sorted.length := by simp
  rw [sampleAt_clamped number, sampleAt_clamped (sorted.length + 1 - number),
    sampleAt_eq (by omega), sampleAt_eq (by omega)]
  simp only [size, List.getElem_reverse, List.getElem_map, List.length_map, opposite]

theorem segment_mirrored (solid : sorted ≠ []) {number : ℕ} (inside : number ≤ sorted.length)
    (place : ℚ) :
    segment (sorted.map Neg.neg).reverse (sorted.length - number) (sorted.length + 1 - place) =
      -segment sorted number place := by
  have count : ((sorted.length - number : ℕ) : ℚ) = sorted.length - number := by
    push_cast [inside]
    rfl
  have next : sorted.length + 1 - (sorted.length - number) = number + 1 := by omega
  have same : sorted.length + 1 - (sorted.length - number + 1) = number := by omega
  rw [segment, segment, sampleAt_mirrored solid (by omega), sampleAt_mirrored solid (by omega),
    next, same, count]
  ring

theorem ofSorted_mirrored (solid : sorted ≠ []) {quantile : ℚ} (nonnegative : 0 ≤ quantile)
    (fraction : quantile ≤ 1) :
    ofSorted (sorted.map Neg.neg).reverse (1 - quantile) = -ofSorted sorted quantile := by
  have positive : (0 : ℚ) < sorted.length + 1 := by positivity
  have size : (sorted.map Neg.neg).reverse.length = sorted.length := by simp
  have inside : quantile * (sorted.length + 1) ≤ sorted.length + 1 :=
    mul_le_of_le_one_left positive.le fraction
  -- The last position is put into the segment before it, as there is none that starts there.
  have segments : ∃ number ≤ sorted.length, (number : ℚ) ≤ quantile * (sorted.length + 1) ∧
      quantile * (sorted.length + 1) ≤ number + 1 := by
    rcases exists_whole (mul_nonneg nonnegative positive.le) with ⟨number, low, high⟩
    rcases Nat.le_or_ge number sorted.length with few | many
    · exact ⟨number, few, low, high.le⟩
    · refine ⟨sorted.length, le_refl _, ?_, inside⟩
      exact le_trans (by exact_mod_cast many) low
  rcases segments with ⟨number, few, low, high⟩
  have place : (1 - quantile) * ((sorted.map Neg.neg).reverse.length + 1) =
      sorted.length + 1 - quantile * (sorted.length + 1) := by
    rw [size]
    ring
  have count : ((sorted.length - number : ℕ) : ℚ) = sorted.length - number := by
    push_cast [few]
    rfl
  rw [ofSorted_eq solid low high, ← segment_mirrored solid few, ← place]
  apply ofSorted_eq (by simpa using solid)
  · rw [place, count]
    linarith
  · rw [place, count]
    linarith

/-! ## Ranks -/

/-- A sample has a rank: fewer samples are smaller, and with those that are equal to it there are
enough. -/
structure IsRanked (samples : List ℚ) (rank : ℕ) (value : ℚ) : Prop where
  mem : value ∈ samples
  fewer : samples.countP (· < value) < rank
  enough : rank ≤ samples.countP (· ≤ value)

theorem IsRanked.of_perm {samples others : List ℚ} {rank : ℕ} {value : ℚ}
    (isRanked : IsRanked samples rank value) (perm : samples.Perm others) :
    IsRanked others rank value where
  mem := perm.mem_iff.mp isRanked.mem
  fewer := perm.countP_eq _ ▸ isRanked.fewer
  enough := perm.countP_eq _ ▸ isRanked.enough

theorem isRanked_getElem (ascending : sorted.Pairwise (· ≤ ·)) {index : ℕ}
    (inside : index < sorted.length) : IsRanked sorted (index + 1) sorted[index] := by
  have order := ascending.sortedLE.getElem_le_getElem_of_le
  constructor
  case mem => exact List.getElem_mem inside
  case fewer =>
    have later : (sorted.drop index).countP (· < sorted[index]) = 0 := by
      rw [List.countP_eq_zero]
      intro sample member
      rcases List.mem_iff_getElem.mp member with ⟨offset, bound, rfl⟩
      rw [List.getElem_drop, decide_eq_true_eq, not_lt]
      exact order (Nat.le_add_right index offset)
    have earlier : (sorted.take index).countP (· < sorted[index]) ≤ (sorted.take index).length :=
      List.countP_le_length
    have parts : sorted.countP (· < sorted[index]) =
        (sorted.take index).countP (· < sorted[index]) +
          (sorted.drop index).countP (· < sorted[index]) := by
      rw [← List.countP_append, List.take_append_drop]
    rw [List.length_take] at earlier
    omega
  case enough =>
    have earlier : (sorted.take (index + 1)).countP (· ≤ sorted[index]) =
        (sorted.take (index + 1)).length := by
      rw [List.countP_eq_length]
      intro sample member
      rcases List.mem_take_iff_getElem.mp member with ⟨number, bound, rfl⟩
      rw [decide_eq_true_eq]
      exact order (by omega)
    have part := (List.take_sublist (index + 1) sorted).countP_le (p := (· ≤ sorted[index]))
    rw [List.length_take] at earlier
    omega

theorem isRanked_sampleAt (ascending : sorted.Pairwise (· ≤ ·)) {rank : ℕ} (positive : 1 ≤ rank)
    (inside : rank ≤ sorted.length) : IsRanked sorted rank (sampleAt sorted rank) := by
  obtain ⟨index, rfl⟩ : ∃ index, rank = index + 1 := ⟨rank - 1, by omega⟩
  rw [sampleAt_eq inside]
  exact isRanked_getElem ascending inside

theorem IsRanked.isLeast {samples : List ℚ} {value : ℚ} (isRanked : IsRanked samples 1 value) :
    IsLeast {sample | sample ∈ samples} value := by
  refine ⟨isRanked.mem, ?_⟩
  intro sample member
  have none := List.countP_eq_zero.mp (Nat.lt_one_iff.mp isRanked.fewer) sample member
  simpa using none

theorem IsRanked.isGreatest {samples : List ℚ} {value : ℚ}
    (isRanked : IsRanked samples samples.length value) :
    IsGreatest {sample | sample ∈ samples} value := by
  refine ⟨isRanked.mem, ?_⟩
  intro sample member
  have all := List.countP_eq_length.mp (le_antisymm List.countP_le_length isRanked.enough)
  simpa using all sample member

/-! ## Quantiles of samples in any order -/

/-- The value of a quantile of samples, if it is a fraction of one. -/
def ofSamples? (samples : List ℚ) (quantile : ℚ) : Option ℚ :=
  valueAt? (samples.mergeSort (· ≤ ·)) quantile

variable {samples : List ℚ}

theorem ofSamples?_eq (samples : List ℚ) (quantile : ℚ) :
    ofSamples? samples quantile =
      if 0 ≤ quantile ∧ quantile ≤ 1 then some (ofSorted (samples.mergeSort (· ≤ ·)) quantile)
      else none := by
  have isFraction : isFraction quantile = decide (0 ≤ quantile ∧ quantile ≤ 1) := by
    rw [Bool.decide_and]
    rfl
  rw [ofSamples?, valueAt?, isFraction]
  simp only [decide_eq_true_eq]

theorem ofSamples?_eq_some_iff {quantile value : ℚ} :
    ofSamples? samples quantile = some value ↔
      (0 ≤ quantile ∧ quantile ≤ 1) ∧ ofSorted (samples.mergeSort (· ≤ ·)) quantile = value := by
  rw [ofSamples?_eq, Option.ite_none_right_eq_some, Option.some.injEq]

theorem mergeSort_neg (samples : List ℚ) :
    (samples.map Neg.neg).mergeSort (· ≤ ·) =
      ((samples.mergeSort (· ≤ ·)).map Neg.neg).reverse := by
  have perm : ((samples.map Neg.neg).mergeSort (· ≤ ·)).Perm
      ((samples.mergeSort (· ≤ ·)).map Neg.neg).reverse :=
    (List.mergeSort_perm _ _).trans
      (((List.mergeSort_perm samples _).map _).symm.trans (List.reverse_perm _).symm)
  have ascending : ((samples.mergeSort (· ≤ ·)).map Neg.neg).reverse.Pairwise (· ≤ ·) := by
    rw [List.pairwise_reverse, List.pairwise_map]
    exact (List.pairwise_mergeSort' _ _).imp neg_le_neg
  exact perm.eq_of_pairwise' (List.pairwise_mergeSort' _ _) ascending

/-- What the quantiles of samples obey in exact arithmetic. -/
structure Laws (samples : List ℚ) : Prop where
  /-- Exactly fractions of one have a value. -/
  isSome_iff : ∀ quantile,
    (ofSamples? samples quantile).isSome = true ↔ 0 ≤ quantile ∧ quantile ≤ 1
  /-- No sample is looked up that is not there. -/
  lookups : ∀ quantile, 0 ≤ quantile → quantile ≤ 1 →
    ofSamples? samples quantile =
      lookup? (samples.mergeSort (· ≤ ·)) (position samples.length quantile)
  monotone : ∀ {quantile later value laterValue}, quantile ≤ later →
    ofSamples? samples quantile = some value → ofSamples? samples later = some laterValue →
    value ≤ laterValue
  least : ∃ least, IsLeast {sample | sample ∈ samples} least ∧
    ofSamples? samples 0 = some least ∧
    ∀ quantile value, ofSamples? samples quantile = some value → least ≤ value
  greatest : ∃ greatest, IsGreatest {sample | sample ∈ samples} greatest ∧
    ofSamples? samples 1 = some greatest ∧
    ∀ quantile value, ofSamples? samples quantile = some value → value ≤ greatest
  ranked : ∀ rank, 1 ≤ rank → rank ≤ samples.length →
    ∃ value, IsRanked samples rank value ∧
      ofSamples? samples (rank / (samples.length + 1)) = some value
  middle : ∀ half, samples.length = 2 * half + 1 →
    ∃ value, IsRanked samples (half + 1) value ∧ ofSamples? samples (1 / 2) = some value
  middles : ∀ half, samples.length = 2 * half →
    ∃ lower upper, IsRanked samples half lower ∧ IsRanked samples (half + 1) upper ∧
      ofSamples? samples (1 / 2) = some ((lower + upper) / 2)
  mirrored : ∀ {quantile value}, ofSamples? samples quantile = some value →
    ofSamples? (samples.map Neg.neg) (1 - quantile) = some (-value)

theorem isRanked_mergeSort {rank : ℕ} (positive : 1 ≤ rank) (inside : rank ≤ samples.length) :
    IsRanked samples rank (sampleAt (samples.mergeSort (· ≤ ·)) rank) := by
  have ascending : (samples.mergeSort (· ≤ ·)).Pairwise (· ≤ ·) := List.pairwise_mergeSort' _ _
  apply IsRanked.of_perm _ (List.mergeSort_perm samples (· ≤ ·))
  apply isRanked_sampleAt ascending positive
  rw [List.length_mergeSort]
  exact inside

section Sorted

variable (solid : samples ≠ [])
include solid

theorem mergeSort_ne_nil : samples.mergeSort (· ≤ ·) ≠ [] := by
  rw [← List.length_pos_iff, List.length_mergeSort, List.length_pos_iff]
  exact solid

/-- At a whole position the value is the sample with this number. -/
theorem ofSamples?_whole {quantile : ℚ} {number : ℕ} (nonnegative : 0 ≤ quantile)
    (fraction : quantile ≤ 1) (whole : quantile * (samples.length + 1) = number) :
    ofSamples? samples quantile = some (sampleAt (samples.mergeSort (· ≤ ·)) number) := by
  rw [ofSamples?_eq_some_iff]
  refine ⟨⟨nonnegative, fraction⟩, ofSorted_eq_sampleAt (mergeSort_ne_nil solid) ?_⟩
  rw [List.length_mergeSort, whole]

theorem ofSamples?_zero :
    ofSamples? samples 0 = some (sampleAt (samples.mergeSort (· ≤ ·)) 1) := by
  have whole : (0 : ℚ) * (samples.length + 1) = (0 : ℕ) := by simp
  rw [ofSamples?_whole solid (le_refl 0) zero_le_one whole]
  rfl

theorem ofSamples?_one :
    ofSamples? samples 1 = some (sampleAt (samples.mergeSort (· ≤ ·)) samples.length) := by
  have positive := List.length_pos_iff.mpr solid
  have whole : (1 : ℚ) * (samples.length + 1) = (samples.length + 1 : ℕ) := by simp
  rw [ofSamples?_whole solid zero_le_one (le_refl 1) whole, sampleAt_clamped,
    sampleAt_clamped samples.length, List.length_mergeSort]
  congr 3
  omega

theorem ofSamples?_mono {quantile later value laterValue : ℚ} (le : quantile ≤ later)
    (is : ofSamples? samples quantile = some value)
    (isLater : ofSamples? samples later = some laterValue) : value ≤ laterValue := by
  rcases ofSamples?_eq_some_iff.mp is with ⟨⟨nonnegative, -⟩, rfl⟩
  rcases ofSamples?_eq_some_iff.mp isLater with ⟨-, rfl⟩
  exact ofSorted_mono (mergeSort_ne_nil solid) (List.pairwise_mergeSort' _ _) nonnegative le

theorem ofSamples?_lookup {quantile : ℚ} (nonnegative : 0 ≤ quantile) (fraction : quantile ≤ 1) :
    ofSamples? samples quantile =
      lookup? (samples.mergeSort (· ≤ ·)) (position samples.length quantile) := by
  have size : (samples.mergeSort (· ≤ ·)).length = samples.length := List.length_mergeSort samples
  rw [ofSamples?_eq, if_pos ⟨nonnegative, fraction⟩, ← size]
  cases shape : samples.mergeSort (· ≤ ·) with
  | nil => exact absurd shape (mergeSort_ne_nil solid)
  | cons first rest => exact (lookup?_cons first rest _).symm

theorem ofSamples?_mirrored {quantile value : ℚ} (is : ofSamples? samples quantile = some value) :
    ofSamples? (samples.map Neg.neg) (1 - quantile) = some (-value) := by
  rcases ofSamples?_eq_some_iff.mp is with ⟨⟨nonnegative, fraction⟩, rfl⟩
  rw [ofSamples?_eq_some_iff, mergeSort_neg]
  refine ⟨⟨by linarith, by linarith⟩, ?_⟩
  exact ofSorted_mirrored (mergeSort_ne_nil solid) nonnegative fraction

theorem ofSamples?_half {half : ℕ} (even : samples.length = 2 * half) :
    ofSamples? samples (1 / 2) =
      some ((sampleAt (samples.mergeSort (· ≤ ·)) half +
        sampleAt (samples.mergeSort (· ≤ ·)) (half + 1)) / 2) := by
  have place : 1 / 2 * (((samples.mergeSort (· ≤ ·)).length : ℚ) + 1) = half + 1 / 2 := by
    rw [List.length_mergeSort, even]
    push_cast
    ring
  have low : (half : ℚ) ≤ 1 / 2 * (((samples.mergeSort (· ≤ ·)).length : ℚ) + 1) := by
    rw [place]
    linarith
  have high : 1 / 2 * (((samples.mergeSort (· ≤ ·)).length : ℚ) + 1) ≤ half + 1 := by
    rw [place]
    linarith
  rw [ofSamples?_eq_some_iff, ofSorted_eq (mergeSort_ne_nil solid) low high, segment, place]
  refine ⟨by norm_num, ?_⟩
  ring

/-- The quantiles of samples that are not empty obey the laws. -/
theorem laws_of_ne_nil : Laws samples where
  isSome_iff quantile := by
    rw [ofSamples?_eq]
    split <;> simp_all
  lookups _ := ofSamples?_lookup solid
  monotone := ofSamples?_mono solid
  least := by
    have isRanked := isRanked_mergeSort (le_refl 1) (List.length_pos_iff.mpr solid)
    refine ⟨_, isRanked.isLeast, ofSamples?_zero solid, ?_⟩
    intro quantile value is
    have nonnegative := (ofSamples?_eq_some_iff.mp is).1.1
    exact ofSamples?_mono solid nonnegative (ofSamples?_zero solid) is
  greatest := by
    have isRanked := isRanked_mergeSort (List.length_pos_iff.mpr solid) (le_refl _)
    refine ⟨_, isRanked.isGreatest, ofSamples?_one solid, ?_⟩
    intro quantile value is
    have fraction := (ofSamples?_eq_some_iff.mp is).1.2
    exact ofSamples?_mono solid fraction is (ofSamples?_one solid)
  ranked rank positive inside := by
    have count : (0 : ℚ) < samples.length + 1 := by positivity
    have few : (rank : ℚ) ≤ samples.length + 1 := by exact_mod_cast Nat.le_succ_of_le inside
    refine ⟨_, isRanked_mergeSort positive inside, ofSamples?_whole solid ?_ ?_ ?_⟩
    · positivity
    · rw [div_le_one count]
      exact few
    · field_simp
  middle half odd := by
    refine ⟨_, isRanked_mergeSort (by omega) (by omega), ?_⟩
    apply ofSamples?_whole solid
    · norm_num
    · norm_num
    · rw [odd]
      push_cast
      ring
  middles half even := by
    have positive := List.length_pos_iff.mpr solid
    exact ⟨_, _, isRanked_mergeSort (by omega) (by omega),
      isRanked_mergeSort (by omega) (by omega), ofSamples?_half solid even⟩
  mirrored := ofSamples?_mirrored solid

end Sorted

theorem Demonstration.laws_of_ne_nil_tied :
    ([3, -1 / 2, 3, 7] : List ℚ) ≠ [] ∧ Laws [3, -1 / 2, 3, 7] ∧
      ∃ lower upper, IsRanked [3, -1 / 2, 3, 7] 2 lower ∧ IsRanked [3, -1 / 2, 3, 7] 3 upper ∧
        ofSamples? [3, -1 / 2, 3, 7] (1 / 2) = some ((lower + upper) / 2) := by
  have solid : ([3, -1 / 2, 3, 7] : List ℚ) ≠ [] := by simp
  have laws := laws_of_ne_nil solid
  exact ⟨solid, laws, laws.middles 2 rfl⟩

example : ofSamples? [3, -1 / 2, 3, 7] (1 / 4) = some (3 / 8) := by cbv

end Microbench.Quantile
