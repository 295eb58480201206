import Microbench.Proofs.Runner.Checks
import Microbench.Proofs.Runner.Steps

/-!
# Errors of the input

A step looks at all of its input before it does anything. So if something is wrong with the input,
wherever it stands, nothing is told, measured or written; the same holds for an execution in one
process whose selection is wrong. The only errors that come later are those of files that cannot be
written.
-/

namespace Microbench

/-- If the outcome is an error, it is one about the input. -/
def BlamesInput {α : Type} (outcome : Except ExecutorError α) : Prop :=
  ∀ error, outcome = .error error → error.isAboutInput = true

namespace BlamesInput

variable {α β : Type}

theorem ok (value : α) : BlamesInput (.ok value) := nofun

theorem error {error : ExecutorError} (about : error.isAboutInput = true) :
    BlamesInput (.error error : Except ExecutorError α) := by
  intro other same
  cases same
  exact about

theorem bind {outcome : Except ExecutorError α} {next : α → Except ExecutorError β}
    (first : BlamesInput outcome) (later : ∀ value, BlamesInput (next value)) :
    BlamesInput (outcome >>= next) := by
  cases outcome with
  | ok value => exact later value
  | error wrong => exact .error (first wrong rfl)

theorem inFile (kind : FileKind) (path : String) (outcome : Except FileFault α) :
    BlamesInput (FileFault.inFile kind path outcome) := by
  cases outcome with
  | ok value => exact .ok value
  | error fault => exact .error rfl

end BlamesInput

section Outcomes

variable {α : Type} {error : ExecutorError}

theorem error_of_bind {first : Except ExecutorError α} {later : α → Except ExecutorError Unit}
    (wrong : first >>= later = .error error) :
    first = .error error ∨ ∃ value, first = .ok value ∧ later value = .error error := by
  cases first with
  | error other =>
      cases wrong
      exact Or.inl rfl
  | ok value => exact Or.inr ⟨value, rfl, wrong⟩

theorem error_of_ok {first : Except ExecutorError α}
    (wrong : (first >>= fun _ => .ok ()) = .error error) : first = .error error := by
  rcases error_of_bind wrong with failed | ⟨value, -, never⟩
  · exact failed
  · cases never

end Outcomes

section Loading

variable (executor : Executor) (files : FileStore) (path : String)

theorem blamesInput_allRuns (configuration : RunnerConfiguration)
    (selected : List PlannedBenchmark) :
    BlamesInput (PlannedBenchmark.allRuns configuration selected) := by
  induction selected with
  | nil => exact .ok _
  | cons planned others ih =>
      rw [PlannedBenchmark.allRuns, PlannedBenchmark.runs]
      cases Odometer.start planned.suite.parameters configuration.parameters
        planned.suite.defaultValues with
      | error error => exact .error rfl
      | ok odometer => exact ih.bind fun later => .ok _

section Files

variable [WorkingDirectory]

theorem blamesInput_read : BlamesInput (files.read path) := by
  rw [FileStore.read]
  split
  · exact .ok _
  · exact .error rfl

theorem blamesInput_loadCycles : BlamesInput (Executor.loadCycles files path) := by
  rw [Executor.loadCycles]
  split
  · exact (blamesInput_read files path).bind fun text => .inFile _ _ _
  · exact .ok 1

theorem blamesInput_loadSamples : BlamesInput (Executor.loadSamples files path) := by
  rw [Executor.loadSamples]
  exact (blamesInput_read files path).bind fun text => .inFile _ _ _

theorem blamesInput_loadReporter (reporter : Reporter) :
    BlamesInput (Executor.loadReporter reporter files path) := by
  rw [Executor.loadReporter]
  split
  · exact (blamesInput_read files path).bind fun text => .ok _
  · exact .ok _

end Files

variable [PatternLanguage]

theorem blamesInput_selectBenchmarks :
    BlamesInput (selectBenchmarks executor.suites executor.configuration) := by
  rw [selectBenchmarks]
  split
  · exact .error rfl
  · exact .ok _

theorem blamesInput_selectRuns :
    BlamesInput (selectRuns executor.suites executor.configuration) := by
  have benchmarks := blamesInput_selectBenchmarks executor
  rw [selectRuns]
  split
  · rename_i wrong
    exact .error (benchmarks _ wrong)
  · exact blamesInput_allRuns _ _

theorem blamesInput_runOf (text : String) : BlamesInput (executor.runOf path text) := by
  rw [Executor.runOf]
  split
  · exact .error rfl
  · apply (blamesInput_selectBenchmarks executor).bind
    intro selected
    split
    · exact .error rfl
    · exact .ok _

variable [WorkingDirectory]

theorem blamesInput_loadRun : BlamesInput (executor.loadRun files path) := by
  rw [Executor.loadRun]
  exact (blamesInput_read files path).bind fun text => blamesInput_runOf executor path text

theorem blamesInput_loadResult (line : List Char) :
    BlamesInput (executor.loadResult files path line) := by
  rw [Executor.loadResult]
  apply (BlamesInput.inFile _ _ _).bind
  intro parts
  apply (BlamesInput.inFile _ _ _).bind
  intro samples
  exact (blamesInput_loadRun executor files _).bind fun run => .ok _

end Loading

/-- Files may have been looked at, but nothing was told, measured or written. -/
structure Outcome.IsUntouched (outcome : Outcome) (files : FileStore) : Prop where
  trace : ∃ paths : List String, outcome.trace = paths.map .looked
  files : outcome.files = files
  lines : outcome.lines = []
  journal : outcome.journal = #[]

/-- Where files were only looked at, everything is as it was. -/
theorem Workspace.HasLooked.isUntouched {executor : Executor} {files : FileStore}
    {after : Workspace} (looked : after.HasLooked (executor.workspace files))
    (ending : Except ExecutorError Unit) :
    (executor.outcomeOf (ending, after)).IsUntouched files := by
  rcases looked.trace with ⟨paths, trace⟩
  have shape : after.trace = paths.map .looked := trace
  constructor
  case trace => exact ⟨paths, shape⟩
  case files => exact looked.files
  case lines => exact looked.lines
  case journal =>
    have idle : after.trace.flatMap Occurrence.activities = [] := by
      rw [shape, List.flatMap_map, List.flatMap_eq_nil_iff]
      intro path _
      rfl
    rw [Outcome.journal, Executor.outcomeOf, idle]

/-- The descriptor of the run that a step is about. -/
def Step.runFile? : Step → Option String
  | .warmUp runFile _ _ => some runFile
  | .measure runFile _ _ _ => some runFile
  | .benchmark runFile _ => some runFile
  | .endRun runFile _ => some runFile
  | .list _ => none
  | .storeResults _ => none

namespace Executor

variable [PatternLanguage] [WorkingDirectory]

/-- What can be wrong with the input of a step. -/
inductive StepFault (executor : Executor) (files : FileStore) : Step → ExecutorError → Prop
  /-- A pattern cannot be read, or a parameter lacks values. -/
  | selection {directory : String} {error : ExecutorError}
      (wrong : selectRuns executor.suites executor.configuration = .error error) :
      StepFault executor files (.list directory) error
  /-- The run's descriptor is missing or malformed, or its benchmark is not selected. -/
  | run {step : Step} {runFile : String} {error : ExecutorError}
      (isAbout : step.runFile? = some runFile)
      (wrong : executor.loadRun files runFile = .error error) :
      StepFault executor files step error
  | cycles {runFile cyclesFile resultFile : String} {index : Nat} {error : ExecutorError}
      (wrong : loadCycles files cyclesFile = .error error) :
      StepFault executor files (.measure runFile index cyclesFile resultFile) error
  | samples {runFile samplesFile : String} {error : ExecutorError}
      (wrong : loadSamples files samplesFile = .error error) :
      StepFault executor files (.endRun runFile samplesFile) error
  /-- The file of results is missing. -/
  | results {resultsFile : String} {error : ExecutorError}
      (wrong : files.read resultsFile = .error error) :
      StepFault executor files (.storeResults resultsFile) error
  /-- Some line of the file of results is malformed, or is about a run that cannot be loaded. -/
  | resultLine {resultsFile text : String} {line : List Char} {error : ExecutorError}
      (reads : files.read resultsFile = .ok text) (isLine : line ∈ resultLines text)
      (wrong : executor.loadResult files resultsFile line = .error error) :
      StepFault executor files (.storeResults resultsFile) error

/-- What can be wrong with the input of a step that goes on from a cursor. -/
inductive Fault (executor : Executor) (files : FileStore) (request : StepRequest) :
    ExecutorError → Prop
  /-- There is a cursor, but it cannot be read. -/
  | cursor {error : ExecutorError}
      (wrong : loadReporter executor.reporter files request.progressFile = .error error) :
      Fault executor files request error
  | step {error : ExecutorError} (wrong : executor.StepFault files request.step error) :
      Fault executor files request error

variable {executor : Executor} {files : FileStore}

/-- Lines are taken one after the other, up to the first that is wrong. -/
theorem loadResults_cases (executor : Executor) (files : FileStore) (path : String)
    (lines : List (List Char)) (results : List RunResult) :
    (∃ line ∈ lines, ∃ error, executor.loadResult files path line = .error error ∧
        ∃ later, executor.loadResults files path results lines = (.error error, later)) ∨
      ((∀ line ∈ lines, ∀ error, executor.loadResult files path line ≠ .error error) ∧
        ∃ later, executor.loadResults files path results lines = (.ok (), later)) := by
  induction lines generalizing results with
  | nil => exact Or.inr ⟨by simp, results, rfl⟩
  | cons line lines ih =>
      rw [loadResults]
      cases loaded : executor.loadResult files path line with
      | error error => exact Or.inl ⟨line, by simp, error, loaded, results, rfl⟩
      | ok result =>
          rcases ih (results ++ [result]) with ⟨other, member, wrong⟩ | ⟨sound, ending⟩
          · exact Or.inl ⟨other, by simp [member], wrong⟩
          · refine Or.inr ⟨?_, ending⟩
            rw [List.forall_mem_cons]
            exact ⟨fun error wrong => by simp [loaded] at wrong, sound⟩

/-- What a step finds wrong with its input. -/
def check (executor : Executor) (files : FileStore) : Step → Except ExecutorError Unit
  | .list _ => selectRuns executor.suites executor.configuration >>= fun _ => .ok ()
  | .warmUp runFile _ _ | .benchmark runFile _ => executor.loadRun files runFile >>= fun _ => .ok ()
  | .measure runFile _ cyclesFile _ =>
    executor.loadRun files runFile >>= fun _ => loadCycles files cyclesFile >>= fun _ => .ok ()
  | .endRun runFile samplesFile =>
    loadSamples files samplesFile >>= fun _ => executor.loadRun files runFile >>= fun _ => .ok ()
  | .storeResults resultsFile =>
    files.read resultsFile >>= fun text =>
      (executor.loadResults files resultsFile executor.results (resultLines text)).1

theorem stepFault_of_check {step : Step} {error : ExecutorError}
    (wrong : executor.check files step = .error error) : executor.StepFault files step error := by
  cases step with
  | list directory => exact .selection (error_of_ok wrong)
  | warmUp runFile index resultFile => exact .run rfl (error_of_ok wrong)
  | measure runFile index cyclesFile resultFile =>
      rcases error_of_bind wrong with notLoaded | ⟨run, -, notCounted⟩
      · exact .run rfl notLoaded
      · exact .cycles (error_of_ok notCounted)
  | benchmark runFile resultFile => exact .run rfl (error_of_ok wrong)
  | endRun runFile samplesFile =>
      rcases error_of_bind wrong with notTaken | ⟨samples, -, notLoaded⟩
      · exact .samples notTaken
      · exact .run rfl (error_of_ok notLoaded)
  | storeResults resultsFile =>
      rcases error_of_bind wrong with notRead | ⟨text, reads, ending⟩
      · exact .results notRead
      · rcases executor.loadResults_cases files resultsFile (resultLines text) executor.results with
          ⟨line, isLine, first, notLoaded, later, stopped⟩ | ⟨-, later, sound⟩
        · rw [stopped] at ending
          cases ending
          exact .resultLine reads isLine notLoaded
        · rw [sound] at ending
          cases ending

/-- A fault in the input is always found, even if another one is found first. -/
theorem StepFault.check {step : Step} {error : ExecutorError}
    (fault : executor.StepFault files step error) :
    ∃ first, executor.check files step = .error first := by
  cases fault with
  | selection wrong => exact ⟨error, by rw [Executor.check, wrong]; rfl⟩
  | run isAbout wrong =>
      cases step with
      | list directory => cases isAbout
      | storeResults resultsFile => cases isAbout
      | warmUp runFile index resultFile =>
          cases isAbout
          exact ⟨error, by rw [Executor.check, wrong]; rfl⟩
      | measure runFile index cyclesFile resultFile =>
          cases isAbout
          exact ⟨error, by rw [Executor.check, wrong]; rfl⟩
      | benchmark runFile resultFile =>
          cases isAbout
          exact ⟨error, by rw [Executor.check, wrong]; rfl⟩
      | endRun runFile samplesFile =>
          cases isAbout
          rw [Executor.check, wrong]
          cases loadSamples files samplesFile <;> exact ⟨_, rfl⟩
  | @cycles runFile cyclesFile resultFile index error wrong =>
      rw [Executor.check, wrong]
      cases executor.loadRun files runFile <;> exact ⟨_, rfl⟩
  | samples wrong => exact ⟨error, by rw [Executor.check, wrong]; rfl⟩
  | results wrong => exact ⟨error, by rw [Executor.check, wrong]; rfl⟩
  | @resultLine resultsFile text line error reads isLine wrong =>
      rw [Executor.check, reads]
      rcases executor.loadResults_cases files resultsFile (resultLines text)
        executor.results with ⟨-, -, first, -, later, ending⟩ | ⟨sound, -⟩
      · exact ⟨first, congrArg Prod.fst ending⟩
      · exact absurd wrong (sound line isLine error)

theorem StepFault.isAboutInput {step : Step} {error : ExecutorError}
    (fault : executor.StepFault files step error) : error.isAboutInput = true := by
  cases fault with
  | selection wrong => exact blamesInput_selectRuns executor _ wrong
  | run isAbout wrong => exact blamesInput_loadRun executor files _ _ wrong
  | cycles wrong => exact blamesInput_loadCycles files _ _ wrong
  | samples wrong => exact blamesInput_loadSamples files _ _ wrong
  | results wrong => exact blamesInput_read files _ _ wrong
  | resultLine reads isLine wrong => exact blamesInput_loadResult executor files _ _ _ wrong

/-- What is done with a run is done after it is loaded. -/
theorem heeds_fetchRun {runFile : String} {later : PlannedRun → Procedure Unit}
    {check : PlannedRun → Except ExecutorError Unit} {space : Workspace}
    (here : space.files = files)
    (heeds : ∀ run, (later run).Heeds (space.look [runFile]) (check run)) :
    (executor.fetchRun runFile >>= later).Heeds space
      (executor.loadRun files runFile >>= check) := by
  have fetched := executor.perform_fetchRun runFile space
  rw [here] at fetched
  exact .after_load fetched (space.hasLooked_look [runFile]) fun run _ => heeds run

/-- A step checks its input before it does anything else. -/
theorem heeds_take (step : Step) {space : Workspace} (here : space.files = files)
    (unused : space.results = executor.results) :
    (executor.take step).Heeds space (executor.check files step) := by
  cases step with
  | list directory =>
      refine .after_load (Procedure.perform_liftM _ space) (.refl space) fun runs _ => .of_acts ?_ _
      exact (Procedure.acts_tell _).bind fun _ => acts_describe _ _
  | warmUp runFile index resultFile =>
      refine heeds_fetchRun here fun run => .of_acts ?_ _
      refine (Procedure.acts_tellAll _).bind fun _ => ?_
      exact (Procedure.acts_perform _ _ _).bind fun outcome => acts_leave _ _ _ _ outcome
  | measure runFile index cyclesFile resultFile =>
      refine heeds_fetchRun here fun run => ?_
      rcases perform_fetchCycles cyclesFile (space.look [runFile]) with ⟨looked, fetched⟩
      have same : (space.look [runFile]).files = files := here
      rw [same] at fetched
      refine .after_load fetched (Workspace.hasLooked_look _ looked) fun cycles _ => .of_acts ?_ _
      exact (Procedure.acts_perform _ _ _).bind fun outcome => acts_leave _ _ _ _ outcome
  | benchmark runFile resultFile =>
      refine heeds_fetchRun here fun run => .of_acts ?_ _
      refine (Procedure.acts_tell _).bind fun _ => ?_
      refine (Procedure.acts_perform _ _ _).bind fun outcome => ?_
      cases outcome with
      | ok samples => exact (Procedure.acts_save _ _).bind fun _ => Procedure.acts_tell _
      | error failure => exact Procedure.acts_tell _
  | endRun runFile samplesFile =>
      have fetched := perform_fetchSamples samplesFile space
      have same : (space.look [samplesFile]).files = files := here
      rw [here] at fetched
      refine .after_load fetched (space.hasLooked_look [samplesFile]) fun samples _ => ?_
      exact heeds_fetchRun same fun run => .of_acts (Procedure.acts_tell _) _
  | storeResults resultsFile =>
      have read := Procedure.perform_read resultsFile space
      rw [here] at read
      refine .after_load read (space.hasLooked_look [resultsFile]) fun text _ => ?_
      rcases executor.perform_fetchResults resultsFile (resultLines text)
        (space.look [resultsFile]) with ⟨looked, fetched⟩
      have same : (space.look [resultsFile]).files = files := here
      have results : (space.look [resultsFile]).results = executor.results := unused
      have looks := (space.look [resultsFile]).hasLooked_look looked
      rw [same, results] at fetched
      exact (Procedure.Heeds.of_load fetched ⟨looks.trace, looks.files, looks.lines⟩).then_acts
        fun _ => executor.acts_complete

/-- A step is faulty and does nothing but look, or it is sound and has no error about its input. -/
theorem step_cases (executor : Executor) (files : FileStore) (request : StepRequest) :
    (∃ error, executor.Fault files request error ∧
        (executor.step files request).ending = .error error ∧
        (executor.step files request).IsUntouched files) ∨
      ((∀ error, ¬ executor.Fault files request error) ∧
        ∀ error, (executor.step files request).ending = .error error →
          error.isAboutInput = false) := by
  rcases request with ⟨progressFile, next⟩
  have begins (looked : List String) := (executor.workspace files).hasLooked_look looked
  cases resumed : loadReporter executor.reporter files progressFile with
  | error wrong =>
      rcases step_of_unresumed resumed next with ⟨looked, stepped⟩
      rw [stepped]
      exact Or.inl ⟨wrong, .cursor resumed, rfl, (begins looked).isUntouched _⟩
  | ok reporter =>
      rcases step_of_resumed resumed next with ⟨looked, stepped⟩
      have here : (((executor.workspace files).look looked).withReporter reporter).files = files :=
        rfl
      have heeds := (executor.heeds_take next here rfl).then_acts
        fun _ => acts_leaveCursor progressFile
      rw [stepped]
      cases checked : executor.check files next with
      | error error =>
          rcases heeds.refused error checked with ⟨ended, idle⟩
          have begun := begins looked
          have looks : (((executor.workspace files).look looked).withReporter reporter).HasLooked
              (executor.workspace files) := ⟨begun.trace, begun.files, begun.lines⟩
          exact Or.inl ⟨error, .step (stepFault_of_check checked), ended,
            (looks.trans idle).isUntouched _⟩
      | ok value =>
          refine Or.inr ⟨?_, heeds.acts checked⟩
          rintro error (wrong | fault)
          · rw [resumed] at wrong
            cases wrong
          · rcases fault.check with ⟨first, wrong⟩
            rw [checked] at wrong
            cases wrong

theorem Fault.isAboutInput {request : StepRequest} {error : ExecutorError}
    (fault : executor.Fault files request error) : error.isAboutInput = true := by
  cases fault with
  | cursor wrong => exact blamesInput_loadReporter files _ _ _ wrong
  | step wrong => exact wrong.isAboutInput

/-- A step ends with an error about its input exactly if there is a fault in it, and then nothing
has happened. -/
structure IsAtomic (executor : Executor) (files : FileStore) (request : StepRequest) : Prop where
  /-- The error is that of a fault. -/
  found : ∀ error, (executor.step files request).ending = .error error →
    error.isAboutInput = true → executor.Fault files request error
  /-- No fault is overlooked. -/
  fails : ∀ error, executor.Fault files request error →
    ∃ first, (executor.step files request).ending = .error first ∧ first.isAboutInput = true
  untouched : ∀ error, (executor.step files request).ending = .error error →
    error.isAboutInput = true → (executor.step files request).IsUntouched files

theorem isAtomic_step (executor : Executor) (files : FileStore) (request : StepRequest) :
    executor.IsAtomic files request := by
  rcases executor.step_cases files request with ⟨error, fault, ended, idle⟩ | ⟨sound, noBlame⟩
  · constructor
    case found =>
      intro other ending _
      rw [ended] at ending
      cases ending
      exact fault
    case fails =>
      intro other _
      exact ⟨error, ended, fault.isAboutInput⟩
    case untouched => exact fun _ _ _ => idle
  · constructor
    case found =>
      intro error ending about
      simp [noBlame error ending] at about
    case fails =>
      intro error fault
      exact absurd fault (sound error)
    case untouched =>
      intro error ending about
      simp [noBlame error ending] at about

/-- An execution in one process has an error about its input exactly if its selection is wrong. -/
theorem ending_run (executor : Executor) (files : FileStore) (error : ExecutorError) :
    (executor.run files).ending = .error error ∧ error.isAboutInput = true ↔
      selectRuns executor.suites executor.configuration = .error error := by
  cases selected : selectRuns executor.suites executor.configuration with
  | error wrong =>
      have about := blamesInput_selectRuns executor wrong selected
      rw [run_of_refused selected files]
      constructor
      · rintro ⟨same, -⟩
        cases same
        rfl
      · intro same
        cases same
        exact ⟨rfl, about⟩
  | ok runs =>
      simp only [reduceCtorEq, iff_false, not_and]
      intro ending about
      cases written : files.write? executor.configuration.reportFile
          (executor.report (PlannedRun.allResults runs)) with
      | some later =>
          rw [(run_of_written selected written).2] at ending
          cases ending
      | none =>
          rw [(run_of_unwritable selected written).2] at ending
          cases ending
          cases about

/-- Steps are atomic, whatever is wrong with their input; and an execution in one process whose
selection is wrong leaves its executor, with the results of earlier executions, and all files as
they were. -/
theorem inputErrors_are_atomic (executor : Executor) (files : FileStore) :
    (∀ request, executor.IsAtomic files request) ∧
      ∀ error,
        ((executor.run files).ending = .error error ∧ error.isAboutInput = true ↔
            selectRuns executor.suites executor.configuration = .error error) ∧
          (selectRuns executor.suites executor.configuration = .error error →
            executor.run files = ⟨executor, files, [], [], .error error⟩) := by
  refine ⟨executor.isAtomic_step files, ?_⟩
  intro error
  exact ⟨executor.ending_run files error, fun wrong => run_of_refused wrong files⟩

end Executor

namespace Demonstration

/-- A file of results whose last line has no samples in it. -/
def spoiltText : String := "demo.Failing_steady_0.json: 0.2\ndemo.Failing_exhausted_0.json\n"

def spoiltFiles : FileStore := ⟨[("results", .file spoiltText)]⟩

/-- The demonstration, selected by a pattern that is none. -/
def unselective : Executor := .create { configuration with included := ["("] } [failing.suite]

theorem fault_spoilt : executor.Fault spoiltFiles ⟨"cursor", .storeResults "results"⟩
    (.malformed .results "results" (.noResult "demo.Failing_exhausted_0.json")) := by
  have fileName : Route.IsFileName "results" :=
    ⟨by simp [Route.isName, Route.nameLimit]; decide, by decide, by decide⟩
  have reads : spoiltFiles.read "results" = .ok spoiltText := by
    rw [FileStore.read, FileStore.read?, FileStore.lookUp?_fileName fileName, placeOf_root fileName]
    rfl
  have isLine : "demo.Failing_exhausted_0.json".toList ∈ resultLines spoiltText := by decide
  exact .step (.resultLine reads isLine rfl)

/-- The last line of the file spoils the step, although the first one is sound; and a selection that
cannot be read spoils the whole execution. -/
theorem inputErrors_spoilt :
    (∃ error, (executor.step spoiltFiles ⟨"cursor", .storeResults "results"⟩).ending =
          .error error ∧
        (executor.step spoiltFiles ⟨"cursor", .storeResults "results"⟩).IsUntouched
          spoiltFiles) ∧
      selectRuns unselective.suites unselective.configuration = .error .pattern ∧
      unselective.run spoiltFiles = ⟨unselective, spoiltFiles, [], [], .error .pattern⟩ := by
  rcases Executor.inputErrors_are_atomic executor spoiltFiles with ⟨steps, -⟩
  rcases Executor.inputErrors_are_atomic unselective spoiltFiles with ⟨-, whole⟩
  have atomic := steps ⟨"cursor", .storeResults "results"⟩
  rcases atomic.fails _ fault_spoilt with ⟨error, ending, about⟩
  have wrong : selectRuns unselective.suites unselective.configuration = .error .pattern := rfl
  exact ⟨⟨error, ending, atomic.untouched error ending about⟩, wrong, (whole .pattern).2 wrong⟩

end Demonstration

end Microbench
