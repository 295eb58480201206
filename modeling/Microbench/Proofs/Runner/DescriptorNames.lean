import Mathlib.Data.List.Nodup
import Microbench.Proofs.Parameter.Readings
import Microbench.Proofs.Runner.Steps

/-!
# Names of descriptors

The descriptor of a run is named after its suite, its benchmark and its number among the runs of the
benchmark, joined by underscores. The number can always be told from the rest, since no number has
an underscore in it. The suite and the benchmark cannot be told from each other, since their names
may have underscores in them. So runs of different benchmarks have different descriptors exactly
when what is left without the number is different.
-/

namespace Microbench

namespace PlannedBenchmark

/-- What the descriptors of a benchmark's runs are named after. -/
def label (planned : PlannedBenchmark) : String :=
  planned.suite.name ++ "_" ++ planned.benchmark.name

/-- The name of the descriptor with a number. -/
def descriptorName (planned : PlannedBenchmark) (number : Nat) : String :=
  planned.label ++ "_" ++ toString number ++ ".json"

/-- The runs of a benchmark; none if its parameters lack values. -/
def ownRuns (configuration : RunnerConfiguration) (planned : PlannedBenchmark) :
    List PlannedRun :=
  (planned.runs configuration).toOption.getD []

theorem ownRuns_eq {configuration : RunnerConfiguration} {planned : PlannedBenchmark}
    {runs : List PlannedRun} (expanded : planned.runs configuration = .ok runs) :
    planned.ownRuns configuration = runs := by
  rw [ownRuns, expanded]
  rfl

theorem runs_ne_nil {configuration : RunnerConfiguration} {planned : PlannedBenchmark}
    {runs : List PlannedRun} (expanded : planned.runs configuration = .ok runs) : runs ≠ [] := by
  rw [PlannedBenchmark.runs] at expanded
  split at expanded
  · cases expanded
  · rename_i odometer started
    cases expanded
    simpa using Odometer.readings_ne_nil started

theorem ownRuns_ne_nil {configuration : RunnerConfiguration} {selected : List PlannedBenchmark}
    {runs : List PlannedRun} (expanded : allRuns configuration selected = .ok runs)
    {planned : PlannedBenchmark} (member : planned ∈ selected) :
    planned.ownRuns configuration ≠ [] := by
  induction selected generalizing runs with
  | nil => cases member
  | cons first selected ih =>
      rcases allRuns_cons expanded with ⟨own, later, ownRuns, laterRuns, rfl⟩
      rcases List.mem_cons.mp member with rfl | inLater
      · rw [ownRuns_eq ownRuns]
        exact runs_ne_nil ownRuns
      · exact ih laterRuns inLater

/-- A name tells what the descriptor is named after, and its number. -/
theorem descriptorName_inj {planned other : PlannedBenchmark} {number otherNumber : Nat} :
    planned.descriptorName number = other.descriptorName otherNumber ↔
      planned.label = other.label ∧ number = otherNumber := by
  constructor
  · intro same
    have chars := congrArg String.toList same
    simp only [descriptorName, String.toList_append, List.append_cancel_right_eq,
      Decimal.toList_toString] at chars
    have noMark (count : Nat) : '_' ∉ Decimal.digits count := by
      intro member
      cases Decimal.isDigit_of_mem_digits member
    have parts := congrArg (Text.splitLast? '_') chars
    have mark : "_".toList = ['_'] := rfl
    simp only [mark, List.append_assoc, List.singleton_append, Text.splitLast?_last (noMark _),
      Option.some.injEq, Prod.mk.injEq, String.toList_inj] at parts
    refine ⟨parts.1, ?_⟩
    have read := congrArg Numeral.readDigits? parts.2
    simpa [Numeral.readDigits?_digits] using read
  · rintro ⟨sameLabel, rfl⟩
    simp [descriptorName, sameLabel]

/-- Only what they are named after can bring slashes into the names of descriptors. -/
theorem slash_notMem_descriptorName {planned : PlannedBenchmark}
    (noSlash : '/' ∉ planned.label.toList) (number : Nat) :
    '/' ∉ (planned.descriptorName number).toList := by
  have noDigit : '/' ∉ Decimal.digits number := by
    intro member
    cases Decimal.isDigit_of_mem_digits member
  simpa [descriptorName, noSlash, Decimal.digits] using noDigit

theorem nodup_numbered (planned : PlannedBenchmark) (count : Nat) :
    ((List.range count).map planned.descriptorName).Nodup := by
  apply List.Nodup.map _ List.nodup_range
  intro number otherNumber same
  exact (descriptorName_inj.mp same).2

end PlannedBenchmark

namespace PlannedRun

variable {planned : PlannedBenchmark} {own : List PlannedRun}

theorem descriptorName_eq (run : PlannedRun) (number : Nat) :
    run.descriptorName number = run.planned.descriptorName number :=
  rfl

theorem descriptorName_of_mem {previous : String} {number : Nat} {runs : List PlannedRun}
    {entry : String × PlannedRun} (member : entry ∈ withDescriptorNames previous number runs) :
    ∃ index, entry.1 = entry.2.planned.descriptorName index := by
  induction runs generalizing previous number with
  | nil => cases member
  | cons run runs ih =>
      rcases List.mem_cons.mp member with rfl | later
      · exact ⟨_, descriptorName_eq run _⟩
      · exact ih later

/-- Where the benchmark changes, the numbers start again. -/
theorem withDescriptorNames_start {run : PlannedRun} {previous : String}
    (changes : run.name ≠ previous) (number : Nat) (runs : List PlannedRun) :
    withDescriptorNames previous number (run :: runs) =
      withDescriptorNames run.name 0 (run :: runs) := by
  simp [withDescriptorNames, changes]

/-- The names of descriptors, each with the name of the benchmark. -/
def taggedNames (previous : String) (number : Nat) (runs : List PlannedRun) :
    List (String × String) :=
  (withDescriptorNames previous number runs).map fun entry => (entry.1, entry.2.name)

theorem map_fst_taggedNames (previous : String) (number : Nat) (runs : List PlannedRun) :
    (taggedNames previous number runs).map Prod.fst =
      (withDescriptorNames previous number runs).map Prod.fst := by
  simp [taggedNames, Function.comp_def]

/-- The runs of one benchmark are numbered one after the other. -/
theorem taggedNames_own (isOwn : ∀ run ∈ own, run.planned = planned) (number : Nat)
    (others : List PlannedRun) :
    taggedNames planned.qualifiedName number (own ++ others) =
      (List.range own.length).map
          (fun index => (planned.descriptorName (number + index), planned.qualifiedName)) ++
        taggedNames planned.qualifiedName (number + own.length) others := by
  induction own generalizing number with
  | nil => simp
  | cons run own ih =>
      have isFirst := isOwn run (by simp)
      have isLater := ih (fun other member => isOwn other (by simp [member])) (number + 1)
      have sameName : run.name = planned.qualifiedName := by rw [name, isFirst]
      rw [taggedNames] at isLater
      simp only [List.cons_append, taggedNames, withDescriptorNames, sameName, if_pos,
        List.map_cons, isLater, descriptorName_eq, isFirst, List.length_cons,
        List.range_succ_eq_map, List.map_map]
      simp [Function.comp_def, Nat.add_comm, Nat.add_left_comm]

/-- Descriptors are numbered benchmark by benchmark. -/
theorem taggedNames_allRuns {configuration : RunnerConfiguration}
    {selected : List PlannedBenchmark}
    (distinct : (selected.map PlannedBenchmark.qualifiedName).Nodup) {runs : List PlannedRun}
    (expanded : PlannedBenchmark.allRuns configuration selected = .ok runs) {previous : String}
    (isNew : previous ∉ selected.map PlannedBenchmark.qualifiedName) (number : Nat) :
    taggedNames previous number runs = selected.flatMap fun planned =>
      (List.range (planned.ownRuns configuration).length).map fun number =>
        (planned.descriptorName number, planned.qualifiedName) := by
  -- The name before is none of those to come, so that each benchmark starts at zero.
  induction selected generalizing runs previous number with
  | nil =>
      cases expanded
      rfl
  | cons planned selected ih =>
      rcases PlannedBenchmark.allRuns_cons expanded with ⟨own, later, ownRuns, laterRuns, rfl⟩
      simp only [List.map_cons, List.nodup_cons] at distinct
      simp only [List.map_cons, List.mem_cons, not_or] at isNew
      have isOwn : ∀ run ∈ own, run.planned = planned := fun run member =>
        PlannedBenchmark.planned_of_mem_runs ownRuns member
      have begun : taggedNames previous number (own ++ later) =
          taggedNames planned.qualifiedName 0 (own ++ later) := by
        rcases List.exists_cons_of_ne_nil (PlannedBenchmark.runs_ne_nil ownRuns) with
          ⟨first, others, rfl⟩
        have sameName : first.name = planned.qualifiedName := by
          rw [name, isOwn first (by simp)]
        have changes : first.name ≠ previous := by
          rw [sameName]
          exact fun same => isNew.1 same.symm
        rw [taggedNames, taggedNames, List.cons_append, withDescriptorNames_start changes, sameName]
      rw [begun, taggedNames_own isOwn, ih distinct.2 laterRuns distinct.1, List.flatMap_cons,
        PlannedBenchmark.ownRuns_eq ownRuns]
      simp

end PlannedRun

namespace Executor

variable [PatternLanguage] {executor : Executor} {runs : List PlannedRun}

/-- A selection of runs is one of benchmarks, and all runs of these. -/
theorem allRuns_benchmarks
    (selected : selectRuns executor.suites executor.configuration = .ok runs) :
    PlannedBenchmark.allRuns executor.configuration executor.benchmarks = .ok runs := by
  rw [selectRuns] at selected
  rw [benchmarks]
  split at selected
  · cases selected
  · rename_i planned found
    rw [found]
    exact selected

section Names

variable (selected : selectRuns executor.suites executor.configuration = .ok runs)
  (names : (executor.benchmarks.map PlannedBenchmark.qualifiedName).Nodup)

include selected names

theorem taggedNames_eq :
    PlannedRun.taggedNames "" 0 runs = executor.benchmarks.flatMap fun planned =>
      (List.range (planned.ownRuns executor.configuration).length).map fun number =>
        (planned.descriptorName number, planned.qualifiedName) := by
  apply PlannedRun.taggedNames_allRuns names (allRuns_benchmarks selected)
  intro member
  rcases List.mem_map.mp member with ⟨planned, -, empty⟩
  simp [PlannedBenchmark.qualifiedName, Suite.qualifiedName] at empty

/-- No two descriptors of one benchmark have the same name. -/
theorem nodup_taggedNames : (PlannedRun.taggedNames "" 0 runs).Nodup := by
  rw [taggedNames_eq selected names, List.nodup_flatMap]
  constructor
  · intro planned _
    apply List.Nodup.of_map Prod.fst
    simpa [Function.comp_def] using planned.nodup_numbered _
  · rw [List.nodup_iff_pairwise_ne, List.pairwise_map] at names
    apply names.imp
    intro planned other different tag inOwn inOther
    rcases List.mem_map.mp inOwn with ⟨number, -, rfl⟩
    rcases List.mem_map.mp inOther with ⟨otherNumber, -, same⟩
    exact different (Prod.mk.inj same).2.symm

/-- If benchmarks have different names, descriptors have different names exactly when those of
different benchmarks are named after something different. -/
theorem nodup_descriptorNames :
    ((PlannedRun.withDescriptorNames "" 0 runs).map Prod.fst).Nodup ↔
      (executor.benchmarks.map PlannedBenchmark.label).Nodup := by
  have ownDistinct : ∀ planned ∈ executor.benchmarks,
      ((List.range (planned.ownRuns executor.configuration).length).map
        planned.descriptorName).Nodup := fun planned _ => planned.nodup_numbered _
  rw [← PlannedRun.map_fst_taggedNames, taggedNames_eq selected names, List.map_flatMap]
  simp only [List.map_map, Function.comp_def]
  rw [List.nodup_flatMap, and_iff_right ownDistinct, List.nodup_iff_pairwise_ne,
    List.pairwise_map]
  apply List.Pairwise.iff_of_mem
  intro planned other member otherMember
  constructor
  · intro disjoint same
    -- Both benchmarks have a run with the number zero.
    have zero {planned : PlannedBenchmark} (member : planned ∈ executor.benchmarks) :
        planned.descriptorName 0 ∈
          (List.range (planned.ownRuns executor.configuration).length).map
            planned.descriptorName := by
      apply List.mem_map_of_mem
      simpa [List.length_pos_iff] using
        PlannedBenchmark.ownRuns_ne_nil (allRuns_benchmarks selected) member
    apply disjoint (zero member)
    rw [PlannedBenchmark.descriptorName_inj.mpr ⟨same, rfl⟩]
    exact zero otherMember
  · intro different file inOwn inOther
    rcases List.mem_map.mp inOwn with ⟨number, -, rfl⟩
    rcases List.mem_map.mp inOther with ⟨otherNumber, -, same⟩
    exact different (PlannedBenchmark.descriptorName_inj.mp same).1.symm

/-- If the name of a descriptor tells the run, no two descriptors have the same name. -/
theorem nodup_of_tells
    (tells : ∀ entry ∈ PlannedRun.withDescriptorNames "" 0 runs,
      ∀ other ∈ PlannedRun.withDescriptorNames "" 0 runs,
        entry.1 = other.1 → entry.2 = other.2) :
    ((PlannedRun.withDescriptorNames "" 0 runs).map Prod.fst).Nodup := by
  rw [← PlannedRun.map_fst_taggedNames]
  apply List.Nodup.map_on _ (nodup_taggedNames selected names)
  intro tag member other otherMember same
  rcases List.mem_map.mp member with ⟨entry, inEntries, rfl⟩
  rcases List.mem_map.mp otherMember with ⟨otherEntry, inOthers, rfl⟩
  rw [tells entry inEntries otherEntry inOthers same, same]

end Names

end Executor

end Microbench
