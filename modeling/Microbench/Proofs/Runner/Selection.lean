import Microbench.CommandLine.Surroundings
import Microbench.Proofs.Parameter.Combinations
import Microbench.Runner.Run
import Microbench.Suite.Demonstration

/-!
# The selected runs

A configuration selects runs, or else says what is wrong with it: first that a pattern cannot be
read, and then that values are missing for a parameter. Only suites of which a benchmark is wanted
have to have values for their parameters. The selected runs are those of the suites one after the
other. In a suite, the wanted benchmarks stand in their order, each with all combinations of values.
Each run has the settings of its own suite, except for those that the configuration overrides.

All this holds for any language of patterns. The languages differ only in what a pattern is and in
which names it is found.
-/

namespace Microbench

/-- A value is the overriding one if there is one, and the default one otherwise. -/
structure IsTaken {α : Type} (override? : Option α) (default value : α) : Prop where
  given : ∀ override, override? = some override → value = override
  missing : override? = none → value = default

theorem isTaken_iff {α : Type} {override? : Option α} {default value : α} :
    IsTaken override? default value ↔ value = override?.getD default := by
  constructor
  · intro taken
    cases present : override? with
    | none => exact taken.missing present
    | some override => exact taken.given override present
  · rintro rfl
    constructor
    · rintro override rfl
      rfl
    · rintro rfl
      rfl

namespace RunnerConfiguration

section Settings

variable {configuration : RunnerConfiguration} {defaults : Defaults} {settings : Settings}

/-- Settings are those that a suite declares, except for those that a configuration overrides. The
advanced options are the configuration's. -/
structure Settles (configuration : RunnerConfiguration) (defaults : Defaults)
    (settings : Settings) : Prop where
  iterations : IsTaken configuration.overrides.iterations defaults.iterations settings.iterations
  warmups : IsTaken configuration.overrides.warmups defaults.warmups settings.warmups
  /-- The number of units of time is overridden apart from the unit. -/
  iterationTime : IsTaken configuration.overrides.iterationTime defaults.iterationTime.value
    settings.iterationTime.value
  iterationTimeUnit : IsTaken configuration.overrides.iterationTimeUnit
    defaults.iterationTime.unit settings.iterationTime.unit
  outputUnit : IsTaken configuration.overrides.outputUnit defaults.outputUnit settings.outputUnit
  mode : IsTaken configuration.overrides.mode defaults.mode settings.mode
  advanced : settings.advanced = configuration.advanced

theorem settles_resolve : configuration.Settles defaults (configuration.resolve defaults) where
  iterations := isTaken_iff.mpr rfl
  warmups := isTaken_iff.mpr rfl
  iterationTime := isTaken_iff.mpr rfl
  iterationTimeUnit := isTaken_iff.mpr rfl
  outputUnit := isTaken_iff.mpr rfl
  mode := isTaken_iff.mpr rfl
  advanced := rfl

/-- There are no other settings like that. -/
theorem settles_iff :
    configuration.Settles defaults settings ↔ settings = configuration.resolve defaults := by
  constructor
  · rintro ⟨iterations, warmups, iterationTime, iterationTimeUnit, outputUnit, mode, advanced⟩
    rw [isTaken_iff] at iterations warmups iterationTime iterationTimeUnit outputUnit mode
    rcases settings with ⟨_, _, ⟨_, _⟩, _, _, _⟩
    simp only at iterations warmups iterationTime iterationTimeUnit outputUnit mode advanced
    subst iterations warmups iterationTime iterationTimeUnit outputUnit mode advanced
    rfl
  · rintro rfl
    exact settles_resolve

end Settings

variable (configuration : RunnerConfiguration)

/-- The parameters of a suite for which there are no values. -/
def lacking (suite : Suite) : List String :=
  Odometer.lacking configuration.parameters suite.defaultValues suite.parameters

/-- All combinations of values for the parameters of a suite. -/
def combinations (suite : Suite) : List ParameterSet :=
  (Odometer.combinations (suite.parameters.map fun name =>
    (name, Odometer.valuesOf configuration.parameters suite.defaultValues name))).map
      ParameterSet.mk

/-- The runs of a benchmark. -/
def runsOf (planned : PlannedBenchmark) : List PlannedRun :=
  (configuration.combinations planned.suite).map fun parameters =>
    ⟨planned, parameters, configuration.resolve planned.suite.defaults⟩

/-- Runs, unless values are missing. -/
def unlessMissing (missing : List String) (runs : List PlannedRun) :
    Except ExecutorError (List PlannedRun) :=
  match missing.head? with
  | some name => .error (.parameter ⟨name⟩)
  | none => .ok runs

theorem unlessMissing_append (missing others : List String) (runs later : List PlannedRun) :
    unlessMissing (missing ++ others) (runs ++ later) =
      match unlessMissing missing runs with
      | .error error => .error error
      | .ok runs => (unlessMissing others later).map (runs ++ ·) := by
  cases missing with
  | cons name missing => rfl
  | nil =>
      cases others with
      | cons name others => rfl
      | nil => rfl

end RunnerConfiguration

namespace PlannedBenchmark

open RunnerConfiguration (unlessMissing)

variable (configuration : RunnerConfiguration)

theorem runs_eq (planned : PlannedBenchmark) :
    planned.runs configuration =
      unlessMissing (configuration.lacking planned.suite) (configuration.runsOf planned) := by
  have readings := Odometer.readings_start configuration.parameters planned.suite.defaultValues
    planned.suite.parameters
  rw [runs, unlessMissing, RunnerConfiguration.lacking]
  cases first : (Odometer.lacking configuration.parameters planned.suite.defaultValues
      planned.suite.parameters).head? with
  | some name =>
      rw [first] at readings
      cases started : Odometer.start planned.suite.parameters configuration.parameters
          planned.suite.defaultValues with
      | error error =>
          rw [started] at readings
          cases readings
          rfl
      | ok odometer =>
          rw [started] at readings
          cases readings
  | none =>
      rw [first] at readings
      cases started : Odometer.start planned.suite.parameters configuration.parameters
          planned.suite.defaultValues with
      | error error =>
          rw [started] at readings
          cases readings
      | ok odometer =>
          rw [started] at readings
          have read : odometer.readings = configuration.combinations planned.suite :=
            Except.ok.inj readings
          simp only [read]
          rfl

theorem allRuns_append (selected others : List PlannedBenchmark) :
    allRuns configuration (selected ++ others) =
      match allRuns configuration selected with
      | .error error => .error error
      | .ok runs => (allRuns configuration others).map (runs ++ ·) := by
  induction selected with
  | nil =>
      rw [List.nil_append, allRuns]
      cases allRuns configuration others <;> rfl
  | cons planned selected ih =>
      rw [List.cons_append, allRuns, allRuns, ih]
      cases planned.runs configuration with
      | error error => rfl
      | ok own =>
          cases allRuns configuration selected with
          | error error => rfl
          | ok runs =>
              simp only [Except.map]
              cases allRuns configuration others <;> simp

/-- Benchmarks of one suite lack the same values, if there are any benchmarks. -/
theorem allRuns_suite {suite : Suite} {selected : List PlannedBenchmark}
    (own : ∀ planned ∈ selected, planned.suite = suite) :
    allRuns configuration selected =
      unlessMissing (if selected = [] then [] else configuration.lacking suite)
        (selected.flatMap configuration.runsOf) := by
  induction selected with
  | nil => rfl
  | cons planned selected ih =>
      rw [List.forall_mem_cons] at own
      rw [allRuns, runs_eq, own.1, ih own.2, if_neg (List.cons_ne_nil planned selected),
        List.flatMap_cons]
      cases configuration.lacking suite with
      | nil =>
          rw [ite_self]
          rfl
      | cons name names => rfl

end PlannedBenchmark

section Language

variable [PatternLanguage]

/-- The pattern that a text denotes is found in a name. -/
def IsFound (text name : String) : Prop :=
  ∃ isIn ∈ PatternLanguage.read? text, isIn name = true

instance (text name : String) : Decidable (IsFound text name) :=
  inferInstanceAs (Decidable (∃ isIn ∈ PatternLanguage.read? text, isIn name = true))

namespace RunnerConfiguration

variable (configuration : RunnerConfiguration)

/-- All patterns can be read. -/
def IsReadable : Prop :=
  ∀ text ∈ configuration.included ++ configuration.excluded, PatternLanguage.read? text ≠ none

instance : Decidable configuration.IsReadable :=
  inferInstanceAs (Decidable (∀ text ∈ configuration.included ++ configuration.excluded,
    PatternLanguage.read? text ≠ none))

/-- A benchmark with this name is wanted. -/
def Wants (name : String) : Prop :=
  (configuration.included = [] ∨ ∃ text ∈ configuration.included, IsFound text name) ∧
    ∀ text ∈ configuration.excluded, ¬ IsFound text name

instance (name : String) : Decidable (configuration.Wants name) :=
  inferInstanceAs (Decidable ((configuration.included = [] ∨
    ∃ text ∈ configuration.included, IsFound text name) ∧
      ∀ text ∈ configuration.excluded, ¬ IsFound text name))

/-- The wanted benchmarks of a suite, in the order in which they were added. -/
def wanted (suite : Suite) : List PlannedBenchmark :=
  (PlannedBenchmark.ofSuite suite).filter fun planned =>
    configuration.Wants planned.qualifiedName

/-- The parameters for which values are missing, as a benchmark is wanted that has them. -/
def missing (suite : Suite) : List String :=
  if configuration.wanted suite = [] then [] else configuration.lacking suite

/-- The wanted benchmarks of a suite, each with all combinations of its values. -/
def choices (suite : Suite) : List (PlannedBenchmark × ParameterSet) :=
  (configuration.wanted suite).flatMap fun planned =>
    (configuration.combinations planned.suite).map fun parameters => (planned, parameters)

/-- The runs of a suite. -/
def suiteRuns (suite : Suite) : List PlannedRun :=
  (configuration.wanted suite).flatMap configuration.runsOf

end RunnerConfiguration

namespace Selection

theorem mapM_read? (texts : List String) :
    texts.mapM PatternLanguage.read? =
      if ∀ text ∈ texts, PatternLanguage.read? text ≠ none then
        some (texts.filterMap PatternLanguage.read?)
      else none := by
  induction texts with
  | nil => rfl
  | cons text texts ih =>
      rw [List.mapM_cons, ih, List.filterMap_cons]
      simp only [List.forall_mem_cons]
      cases PatternLanguage.read? text with
      | none => simp
      | some pattern =>
          by_cases others : ∀ text ∈ texts, PatternLanguage.read? text ≠ none
          · rw [if_pos others, if_pos ⟨Option.some_ne_none pattern, others⟩]
            rfl
          · rw [if_neg others, if_neg fun all => others all.2]
            rfl

theorem any_filterMap_read? (texts : List String) (name : String) :
    (texts.filterMap PatternLanguage.read?).any (fun isIn => isIn name) = true ↔
      ∃ text ∈ texts, IsFound text name := by
  simp only [List.any_eq_true, List.mem_filterMap, IsFound, Option.mem_def]
  constructor
  · rintro ⟨isIn, ⟨text, member, denotes⟩, found⟩
    exact ⟨text, member, isIn, denotes, found⟩
  · rintro ⟨text, member, isIn, denotes, found⟩
    exact ⟨isIn, ⟨text, member, denotes⟩, found⟩

end Selection

variable (configuration : RunnerConfiguration)

theorem selects_iff (readable : configuration.IsReadable) (name : String) :
    Selection.selects ⟨configuration.included.filterMap PatternLanguage.read?,
        configuration.excluded.filterMap PatternLanguage.read?⟩ name = true ↔
      configuration.Wants name := by
  have noneIncluded :
      (configuration.included.filterMap PatternLanguage.read?).isEmpty = true ↔
        configuration.included = [] := by
    rw [List.isEmpty_iff, List.filterMap_eq_nil_iff, List.eq_nil_iff_forall_not_mem]
    apply forall_congr'
    intro text
    constructor
    · intro unreadable member
      exact readable text (List.mem_append_left _ member) (unreadable member)
    · intro notMember member
      exact absurd member notMember
  simp only [Selection.selects, RunnerConfiguration.Wants, Bool.and_eq_true, Bool.or_eq_true,
    Bool.not_eq_true', noneIncluded, Selection.any_filterMap_read?, ← Bool.not_eq_true, not_exists,
    not_and]

theorem selectBenchmarks_eq (suites : List Suite) :
    selectBenchmarks suites configuration =
      if configuration.IsReadable then .ok (suites.flatMap configuration.wanted)
      else .error .pattern := by
  have included := Selection.mapM_read? configuration.included
  have excluded := Selection.mapM_read? configuration.excluded
  by_cases readable : configuration.IsReadable
  · have both := readable
    rw [RunnerConfiguration.IsReadable, List.forall_mem_append] at both
    rw [if_pos both.1] at included
    rw [if_pos both.2] at excluded
    rw [selectBenchmarks, Selection.read?, included, excluded, if_pos readable]
    simp only [Option.bind_eq_bind, Option.bind_some, Option.pure_def, plan, List.filter_flatMap]
    congr 2
    funext suite
    apply List.filter_congr
    intro planned _
    rw [Bool.eq_iff_iff, decide_eq_true_iff, ← selects_iff configuration readable]
  · have notBoth := readable
    rw [RunnerConfiguration.IsReadable, List.forall_mem_append] at notBoth
    rw [selectBenchmarks, Selection.read?, included, excluded, if_neg readable]
    by_cases first : ∀ text ∈ configuration.included, PatternLanguage.read? text ≠ none
    · rw [if_pos first, if_neg fun second => notBoth ⟨first, second⟩]
      rfl
    · rw [if_neg first]
      rfl

open RunnerConfiguration (unlessMissing unlessMissing_append) in
theorem PlannedBenchmark.allRuns_wanted (suites : List Suite) :
    allRuns configuration (suites.flatMap configuration.wanted) =
      unlessMissing (suites.flatMap configuration.missing)
        (suites.flatMap configuration.suiteRuns) := by
  induction suites with
  | nil => rfl
  | cons suite suites ih =>
      have own : ∀ planned ∈ configuration.wanted suite, planned.suite = suite := by
        intro planned member
        have added := (List.mem_filter.mp member).1
        rw [ofSuite, List.mem_mapIdx] at added
        rcases added with ⟨index, inside, rfl⟩
        rfl
      rw [List.flatMap_cons, List.flatMap_cons, List.flatMap_cons, allRuns_append, ih,
        allRuns_suite configuration own, unlessMissing_append]
      rfl

namespace RunnerConfiguration

/-- Runs are those of suites: there is one for each wanted benchmark and each combination of values,
in this order, with the settings of its own suite. -/
structure AreRunsOf (suites : List Suite) (runs : List PlannedRun) : Prop where
  choices : runs.map (fun run => (run.planned, run.parameters)) =
    suites.flatMap configuration.choices
  settings : ∀ run ∈ runs, configuration.Settles run.planned.suite.defaults run.settings

theorem suiteRuns_eq (suite : Suite) :
    configuration.suiteRuns suite = (configuration.choices suite).map fun choice =>
      ⟨choice.1, choice.2, configuration.resolve choice.1.suite.defaults⟩ := by
  rw [suiteRuns, choices, List.map_flatMap]
  congr 1
  funext planned
  rw [runsOf, List.map_map]
  rfl

/-- The runs of suites are known by their benchmarks, values and settings. -/
theorem areRunsOf_iff {suites : List Suite} {runs : List PlannedRun} :
    configuration.AreRunsOf suites runs ↔ runs = suites.flatMap configuration.suiteRuns := by
  have shape : suites.flatMap configuration.suiteRuns =
      (suites.flatMap configuration.choices).map fun choice =>
        ⟨choice.1, choice.2, configuration.resolve choice.1.suite.defaults⟩ := by
    rw [List.map_flatMap]
    congr 1
    funext suite
    exact configuration.suiteRuns_eq suite
  rw [shape]
  constructor
  · rintro ⟨choices, settings⟩
    rw [← choices, List.map_map]
    calc
      runs = runs.map id := by rw [List.map_id]
      _ = _ := by
        apply List.map_congr_left
        intro run member
        have settled := settles_iff.mp (settings run member)
        rcases run with ⟨planned, parameters, _⟩
        rw [Function.comp_apply, ← settled, id]
  · rintro rfl
    constructor
    · rw [List.map_map]
      exact List.map_id _
    · intro run member
      rcases List.mem_map.mp member with ⟨choice, -, rfl⟩
      exact settles_resolve

/-- What comes of selecting runs. -/
structure Selects (suites : List Suite) (outcome : Except ExecutorError (List PlannedRun)) :
    Prop where
  pattern : outcome = .error .pattern ↔ ¬ configuration.IsReadable
  /-- The first parameter is to blame for which values are missing. -/
  parameter : ∀ name, outcome = .error (.parameter ⟨name⟩) ↔
    configuration.IsReadable ∧ (suites.flatMap configuration.missing).head? = some name
  runs : ∀ runs, outcome = .ok runs ↔
    configuration.IsReadable ∧ suites.flatMap configuration.missing = [] ∧
      configuration.AreRunsOf suites runs

/-- Whatever the language of patterns is, the runs are selected, or an input is to blame. -/
theorem selects_selectRuns (suites : List Suite) :
    configuration.Selects suites (selectRuns suites configuration) := by
  have selected := selectBenchmarks_eq configuration suites
  by_cases readable : configuration.IsReadable
  · rw [if_pos readable] at selected
    rw [selectRuns, selected]
    simp only [PlannedBenchmark.allRuns_wanted, unlessMissing]
    cases missing : suites.flatMap configuration.missing with
    | nil => constructor <;> simp [readable, missing, areRunsOf_iff, eq_comm]
    | cons name names => constructor <;> simp [readable, missing]
  · rw [if_neg readable] at selected
    rw [selectRuns, selected]
    constructor <;> simp [readable]

end RunnerConfiguration

end Language

namespace Demonstration

/-- A configuration that wants one benchmark of a suite, and overrides some of its settings. -/
def selective : RunnerConfiguration where
  name := "demo"
  reportFile := "report.json"
  traceFormat := .text
  reportFormat := .json
  parameters := .empty
  included := ["Scaling[.]s", "exhausted"]
  excluded := ["sort$", "Failing"]
  overrides := { Overrides.none with iterations := some 5, iterationTimeUnit := some .microseconds }
  advanced := .empty

/-- There is a run for each size. The runs have the overriding count of iterations and unit of time,
and the other settings of their suite. -/
theorem selects_selectRuns_selective :
    ∃ runs, selectRuns suites selective = .ok runs ∧
      runs.map (fun run => (run.name, run.parameters.pairs)) =
        [("demo.Scaling.scan", [("size", "100")]), ("demo.Scaling.scan", [("size", "10000")])] ∧
      ∀ run ∈ runs, run.settings.iterations = 5 ∧
        run.settings.warmups = run.planned.suite.defaults.warmups ∧
        run.settings.iterationTime =
          ⟨run.planned.suite.defaults.iterationTime.value, .microseconds⟩ := by
  have readable : selective.IsReadable := by decide +kernel
  have complete : suites.flatMap selective.missing = [] := by decide +kernel
  have areRuns : selective.AreRunsOf suites (suites.flatMap selective.suiteRuns) :=
    selective.areRunsOf_iff.mpr rfl
  have selects := selective.selects_selectRuns suites
  refine ⟨_, (selects.runs _).mpr ⟨readable, complete, areRuns⟩, by decide +kernel, ?_⟩
  intro run member
  have settles := areRuns.settings run member
  refine ⟨settles.iterations.given 5 rfl, settles.warmups.missing rfl, ?_⟩
  have count := settles.iterationTime.missing rfl
  have unit := settles.iterationTimeUnit.given .microseconds rfl
  rw [← count, ← unit]

end Demonstration

end Microbench
