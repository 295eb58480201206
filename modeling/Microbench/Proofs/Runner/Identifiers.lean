import Microbench.Proofs.Runner.DescriptorNames

/-!
# Identifiers of runs

A run's identifier is the name of its benchmark with the names and values of its parameters. Nothing
in it is escaped. Where a name or a value ends is told by what stands after it: the mark for the
parameters, or the name of the next parameter. If these can always be told from what stands before
them, runs of different benchmarks or with different values have different identifiers. Otherwise
the value of one parameter can pass for a part of that of another.
-/

namespace Microbench

namespace ParameterSet

/-- The part of a text for all parameters but the first. -/
def laterText (pairs : List (String × String)) : String :=
  String.join (pairs.map fun pair => ", " ++ pair.1 ++ "=" ++ pair.2)

theorem laterText_cons (pair : String × String) (pairs : List (String × String)) :
    laterText (pair :: pairs) = ", " ++ pair.1 ++ "=" ++ (pair.2 ++ laterText pairs) := by
  simp [laterText, String.append_assoc]

theorem text_cons (pair : String × String) (pairs : List (String × String)) :
    text ⟨pair :: pairs⟩ = pair.1 ++ "=" ++ (pair.2 ++ laterText pairs) := by
  induction pairs generalizing pair with
  | nil => simp [text, laterText]
  | cons next pairs ih =>
      have later := ih next
      rw [text, List.map_cons] at later
      rw [text, List.map_cons, List.map_cons, String.intercalate_cons_cons, later, laterText_cons]
      simp only [String.append_assoc]

end ParameterSet

namespace Odometer

open ParameterSet (laterText)

/-- The name of each parameter shows where any value of the one before it ends. -/
def IsLegible (wheels : List Wheel) : Prop :=
  wheels.IsChain fun wheel next => Text.MarksEnds (", " ++ next.name ++ "=") wheel.values

instance (wheels : List Wheel) : Decidable (IsLegible wheels) :=
  inferInstanceAs (Decidable (wheels.IsChain fun wheel next =>
    Text.MarksEnds (", " ++ next.name ++ "=") wheel.values))

theorem shown_mem {wheel : Wheel} (solid : wheel.values ≠ []) (number : Nat) :
    wheel.values.getD (number % wheel.values.length) "" ∈ wheel.values := by
  have below := Nat.mod_lt number (List.length_pos_iff.mpr solid)
  rw [List.getD_eq_getElem _ _ below]
  exact List.getElem_mem below

/-- Values are told from their text, one after the other. -/
theorem pairs_of_laterText {wheel : Wheel} {wheels : List Wheel}
    (legible : IsLegible (wheel :: wheels)) (solid : ∀ wheel ∈ wheels, wheel.values ≠ [])
    {value other : String} (member : value ∈ wheel.values) (otherMember : other ∈ wheel.values)
    {number otherNumber : Nat}
    (same : value ++ laterText (choice wheels number).pairs =
      other ++ laterText (choice wheels otherNumber).pairs) :
    value = other ∧ (choice wheels number).pairs = (choice wheels otherNumber).pairs := by
  induction wheels generalizing wheel value other number otherNumber with
  | nil =>
      have nothing (number : Nat) : laterText (choice [] number).pairs = "" := rfl
      rw [nothing, nothing, String.append_empty, String.append_empty] at same
      exact ⟨same, rfl⟩
  | cons next wheels ih =>
      rw [IsLegible, List.isChain_cons_cons] at legible
      rw [List.forall_mem_cons] at solid
      have regroup (value mark rest : String) : value ++ (mark ++ rest) = value ++ mark ++ rest :=
        String.append_assoc.symm
      simp only [pairs_choice_cons, ParameterSet.laterText_cons] at same
      rw [regroup value, regroup other] at same
      have marks : Text.MarksEnds (", " ++ next.name ++ "=") wheel.values := legible.1
      rcases Text.eq_of_marked (marks value member other otherMember)
        (marks other otherMember value member) same with ⟨sameValue, rest⟩
      rcases ih legible.2 solid.2 (shown_mem solid.1 number) (shown_mem solid.1 otherNumber) rest
        with ⟨sameNext, samePairs⟩
      exact ⟨sameValue, by rw [pairs_choice_cons, pairs_choice_cons, sameNext, samePairs]⟩

theorem choice_of_text {wheels : List Wheel} (legible : IsLegible wheels)
    (solid : ∀ wheel ∈ wheels, wheel.values ≠ []) {number other : Nat}
    (same : (choice wheels number).text = (choice wheels other).text) :
    choice wheels number = choice wheels other := by
  cases wheels with
  | nil => rfl
  | cons wheel wheels =>
      rw [List.forall_mem_cons] at solid
      have texts (number : Nat) := ParameterSet.text_cons
        (wheel.name, wheel.values.getD (number % wheel.values.length) "")
        (choice wheels (number / wheel.values.length)).pairs
      have shape (number : Nat) : choice (wheel :: wheels) number =
          ⟨(wheel.name, wheel.values.getD (number % wheel.values.length) "") ::
            (choice wheels (number / wheel.values.length)).pairs⟩ := rfl
      rw [shape, shape, texts, texts, String.append_right_inj] at same
      rcases pairs_of_laterText legible solid.2 (shown_mem solid.1 number)
        (shown_mem solid.1 other) same with ⟨sameValue, samePairs⟩
      rw [shape, shape, sameValue, samePairs]

end Odometer

theorem runId_of_isEmpty {parameters : ParameterSet} (none : parameters.isEmpty = true)
    (name : String) : runId name parameters = name ∧ parameters = .empty := by
  refine ⟨by rw [runId, if_pos none], ?_⟩
  rw [ParameterSet.isEmpty, List.isEmpty_iff] at none
  rw [ParameterSet.empty, ← none]

/-- An identifier tells the name of the benchmark and the text of the parameters. -/
theorem runId_inj {name other : String} {parameters others : ParameterSet}
    (marks : parameters.isEmpty = false → Text.MarksEnd " | " name other)
    (otherMarks : others.isEmpty = false → Text.MarksEnd " | " other name)
    (same : runId name parameters = runId other others) :
    name = other ∧ parameters.text = others.text := by
  have noMark {name other text : String} (marks : Text.MarksEnd " | " other name) :
      name ≠ other ++ " | " ++ text := by
    rintro rfl
    have chars := congrArg String.toList (marks (by simp))
    simp at chars
  cases none : parameters.isEmpty with
  | true =>
      rcases runId_of_isEmpty none name with ⟨id, rfl⟩
      cases otherNone : others.isEmpty with
      | true =>
          rcases runId_of_isEmpty otherNone other with ⟨otherId, rfl⟩
          rw [id, otherId] at same
          exact ⟨same, rfl⟩
      | false =>
          rw [id, runId, otherNone] at same
          exact absurd same (noMark (otherMarks otherNone))
  | false =>
      cases otherNone : others.isEmpty with
      | true =>
          rw [(runId_of_isEmpty otherNone other).1, runId, none] at same
          exact absurd same.symm (noMark (marks none))
      | false =>
          rw [runId, runId, none, otherNone] at same
          exact Text.eq_of_marked (marks none) (otherMarks otherNone) same

namespace PlannedBenchmark

/-- The parameters of a benchmark's suite with their values; none if values are lacking. -/
def wheels (configuration : RunnerConfiguration) (planned : PlannedBenchmark) : List Wheel :=
  (Odometer.wheelsFor configuration.parameters planned.suite.defaultValues
    planned.suite.parameters).toOption.getD []

variable {configuration : RunnerConfiguration} {planned : PlannedBenchmark}

theorem solid_wheels : ∀ wheel ∈ planned.wheels configuration, wheel.values ≠ [] := by
  rw [wheels]
  cases found : Odometer.wheelsFor configuration.parameters planned.suite.defaultValues
      planned.suite.parameters with
  | error error => simp [Except.toOption]
  | ok wheels => exact Odometer.wheelsFor_solid found

theorem parameters_ne_nil {number : Nat}
    (some : (Odometer.choice (planned.wheels configuration) number).isEmpty = false) :
    planned.suite.parameters ≠ [] := by
  intro none
  have nothing : planned.wheels configuration = [] := by
    simp [wheels, none, Odometer.wheelsFor, Except.toOption]
  rw [nothing] at some
  cases some

theorem ids_runs {runs : List PlannedRun} (expanded : planned.runs configuration = .ok runs) :
    runs.map PlannedRun.id =
      (List.range (Odometer.choices (planned.wheels configuration))).map fun number =>
        runId planned.qualifiedName (Odometer.choice (planned.wheels configuration) number) := by
  rw [PlannedBenchmark.runs] at expanded
  split at expanded
  · cases expanded
  · rename_i odometer started
    rcases Odometer.readings_eq started with ⟨found, readings⟩
    have own : planned.wheels configuration = odometer.wheels := by rw [wheels, found]; rfl
    cases expanded
    rw [readings, List.map_map, List.map_map, own]
    rfl

theorem allRuns_eq {selected : List PlannedBenchmark} {runs : List PlannedRun}
    (expanded : allRuns configuration selected = .ok runs) :
    runs = selected.flatMap (ownRuns configuration) ∧
      ∀ planned ∈ selected, planned.runs configuration = .ok (planned.ownRuns configuration) := by
  induction selected generalizing runs with
  | nil =>
      cases expanded
      simp
  | cons planned selected ih =>
      rcases allRuns_cons expanded with ⟨own, later, expandedOwn, expandedLater, rfl⟩
      rcases ih expandedLater with ⟨rfl, others⟩
      rw [List.flatMap_cons, List.forall_mem_cons, ownRuns_eq expandedOwn]
      exact ⟨rfl, expandedOwn, others⟩

end PlannedBenchmark

namespace Executor

variable [PatternLanguage]

/-- Values of parameters, and names of benchmarks that have parameters, can be told from what comes
after them. -/
structure IsLegible (executor : Executor) : Prop where
  names : ∀ planned ∈ executor.benchmarks, planned.suite.parameters ≠ [] →
    ∀ other ∈ executor.benchmarks,
      Text.MarksEnd " | " planned.qualifiedName other.qualifiedName
  values : ∀ planned ∈ executor.benchmarks,
    Odometer.IsLegible (planned.wheels executor.configuration)

/-- Without vertical bars in names and commas in values, everything is legible. -/
theorem isLegible_of_plain {executor : Executor}
    (names : ∀ planned ∈ executor.benchmarks, '|' ∉ planned.qualifiedName.toList)
    (values : ∀ planned ∈ executor.benchmarks, ∀ wheel ∈ planned.wheels executor.configuration,
      ∀ value ∈ wheel.values, ',' ∉ value.toList) : executor.IsLegible := by
  constructor
  · intro planned member _ other otherMember
    apply @Text.marksEnd_of_notMem _ _ _ '|'
    · decide
    · exact names planned member
    · exact names other otherMember
  · intro planned member
    apply List.Pairwise.isChain
    rw [List.pairwise_iff_forall_sublist]
    intro wheel next before value inValues other otherInValues
    have own := values planned member wheel (before.subset (by simp))
    apply @Text.marksEnd_of_notMem _ _ _ ','
    · simp
    · exact own value inValues
    · exact own other otherInValues

/-- If values and names are legible, identifiers identify runs. -/
theorem nodup_ids {executor : Executor} {runs : List PlannedRun}
    (selected : selectRuns executor.suites executor.configuration = .ok runs)
    (names : (executor.benchmarks.map PlannedBenchmark.qualifiedName).Nodup)
    (values : ∀ planned ∈ executor.benchmarks, ∀ wheel ∈ planned.wheels executor.configuration,
      wheel.values.Nodup)
    (legible : executor.IsLegible) : (runs.map PlannedRun.id).Nodup := by
  rcases PlannedBenchmark.allRuns_eq (allRuns_benchmarks selected) with ⟨rfl, expanded⟩
  have ids {planned : PlannedBenchmark} (member : planned ∈ executor.benchmarks) :=
    PlannedBenchmark.ids_runs (expanded planned member)
  rw [List.map_flatMap, List.nodup_flatMap]
  constructor
  · intro planned member
    rw [ids member]
    apply List.Nodup.map_on _ List.nodup_range
    intro number below other otherBelow same
    rw [List.mem_range] at below otherBelow
    apply Odometer.choice_inj (values planned member) below otherBelow
    apply Odometer.choice_of_text (legible.values planned member) PlannedBenchmark.solid_wheels
    exact (runId_inj (fun _ _ => rfl) (fun _ _ => rfl) same).2
  · rw [List.nodup_iff_pairwise_ne, List.pairwise_map] at names
    apply names.imp_of_mem
    intro planned other member otherMember different id inOwn inOther
    simp only [ids member, List.mem_map] at inOwn
    simp only [ids otherMember, List.mem_map] at inOther
    rcases inOwn with ⟨number, -, rfl⟩
    rcases inOther with ⟨otherNumber, -, same⟩
    apply different
    apply And.left
    apply runId_inj _ _ same.symm
    · intro some
      exact legible.names planned member (PlannedBenchmark.parameters_ne_nil some) other otherMember
    · intro some
      exact legible.names other otherMember (PlannedBenchmark.parameters_ne_nil some) planned member

end Executor

namespace Demonstration

/-- A suite with two parameters. -/
def grid (rows columns : List String) : ScriptedSuite where
  name := "demo.Grid"
  parameters := [("rows", rows), ("columns", columns)]
  defaults := Defaults.standard
  panics := []
  benchmarks := [⟨"fill", .plain, [500], none, 0, none⟩]

def gridExecutor (rows columns : List String) : Executor :=
  .create configuration [(grid rows columns).suite]

/-- Two values for each parameter make four identifiers. -/
theorem nodup_ids_grid :
    ∃ runs,
      selectRuns (gridExecutor ["1", "2"] ["1", "2"]).suites
          (gridExecutor ["1", "2"] ["1", "2"]).configuration = .ok runs ∧
        runs.length = 4 ∧ (runs.map PlannedRun.id).Nodup := by
  refine ⟨_, rfl, rfl, ?_⟩
  apply @Executor.nodup_ids _ (gridExecutor ["1", "2"] ["1", "2"]) _ rfl
  · decide
  · decide
  · apply Executor.isLegible_of_plain
    · decide
    · decide

/-- Values that have a comma and the name of the next parameter in them: two of four different runs
have the same identifier. -/
theorem not_nodup_ids_grid :
    let executor := gridExecutor ["a", "a, columns=b"] ["c", "b, columns=c"]
    (executor.benchmarks.map PlannedBenchmark.qualifiedName).Nodup ∧
      (∀ planned ∈ executor.benchmarks, ∀ wheel ∈ planned.wheels executor.configuration,
        wheel.values.Nodup) ∧
      ∃ runs, selectRuns executor.suites executor.configuration = .ok runs ∧
        (runs.map PlannedRun.parameters).Nodup ∧ ¬ (runs.map PlannedRun.id).Nodup := by
  refine ⟨by decide, by decide, _, rfl, by decide, by decide⟩

end Demonstration

end Microbench
