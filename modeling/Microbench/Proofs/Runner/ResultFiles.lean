import Microbench.Proofs.Files.OnePlace
import Microbench.Proofs.Runner.Announcement
import Microbench.Proofs.Runner.InputErrors

/-!
# What steps leave behind

A step of one iteration leaves its number, or the word that there is none if the run fails. A step
with a whole run leaves the samples, but nothing at all if the run fails: whatever an earlier step
has left in the file is still there, and can be taken for the samples of this run.
-/

namespace Microbench

namespace Step

/-- The file for what a step measures. -/
def resultFile? : Step → Option String
  | .warmUp _ _ resultFile => some resultFile
  | .measure _ _ _ resultFile => some resultFile
  | .benchmark _ resultFile => some resultFile
  | .list _ => none
  | .endRun _ _ => none
  | .storeResults _ => none

/-- The files that a step reads before it measures something. -/
def inputs : Step → List String
  | .warmUp runFile _ _ => [runFile]
  | .measure runFile _ cyclesFile _ => [runFile, cyclesFile]
  | .benchmark runFile _ => [runFile]
  | .list _ => []
  | .endRun _ _ => []
  | .storeResults _ => []

end Step

namespace Executor

variable [WorkingDirectory]

/-- Of the effects of a step, only what it leaves matters to its result file. -/
theorem has_carryOut {files : FileStore} {resultFile : String} {left kept : Option String}
    (has : files.Has resultFile kept) {first last : List ReporterCall} {effects : List Effect}
    (saves : effects = first.map .report ++
      (left.map fun text => (resultFile, text)).toList.map (fun save => .save save.1 save.2) ++
        last.map .report)
    (completed : (Effect.carryOut files effects).ending = .ok ()) :
    (Effect.carryOut files effects).files.Has resultFile (left.or kept) := by
  have told (between : FileStore) :
      (Effect.carryOut between (last.map .report)).files = between := by
    have reports := Effect.carryOut_reports between last []
    rw [List.append_nil] at reports
    rw [reports]
    rfl
  rw [saves, List.append_assoc, Effect.carryOut_reports] at completed ⊢
  cases left with
  | none => simpa [told] using has
  | some text =>
      cases written : files.write? resultFile text with
      | none => simp [Effect.carryOut_unwritable written] at completed
      | some between =>
          simp only [Option.map_some, Option.toList_some, List.map_cons, List.map_nil,
            List.cons_append, List.nil_append, Effect.carryOut_save written, told, Option.some_or]
          exact FileStore.read?_write written

theorem read?_leaveCursor {space : Workspace} {progressFile path : String} {kept : Option String}
    (has : space.files.Has path kept)
    (elsewhere : Route.placeOf path ≠ Route.placeOf progressFile) :
    ((leaveCursor progressFile).perform space).2.files.read? path = kept := by
  rw [perform_leaveCursor]
  split
  · rw [Procedure.perform_save]
    split
    · rename_i written
      exact FileStore.read?_write_elsewhere has written elsewhere
    · exact FileStore.read?_of_has has
  · exact FileStore.read?_of_has has

variable [PatternLanguage]

/-- The text that a step writes to the file for what it measures, if it writes one. -/
inductive Leaves (executor : Executor) (files : FileStore) : Step → Option String → Prop
  | warmUp {runFile resultFile : String} {index : Nat} {run : PlannedRun}
      (loaded : executor.loadRun files runFile = .ok run) :
      Leaves executor files (.warmUp runFile index resultFile)
        (some (numberText (fun cycles => toString cycles.toNat) (run.warmUp index).outcome))
  | measure {runFile cyclesFile resultFile : String} {index : Nat} {run : PlannedRun}
      {cycles : UInt64} (loaded : executor.loadRun files runFile = .ok run)
      (counted : loadCycles files cyclesFile = .ok cycles) :
      Leaves executor files (.measure runFile index cyclesFile resultFile)
        (some (numberText Samples.sampleText (run.measure index cycles).outcome))
  | benchmark {runFile resultFile : String} {run : PlannedRun}
      (loaded : executor.loadRun files runFile = .ok run) :
      Leaves executor files (.benchmark runFile resultFile) run.samplesText?

/-- A step is a whole run, and the run fails. -/
def GivesUp (executor : Executor) (files : FileStore) (step : Step) : Prop :=
  ∃ runFile resultFile run failure, step = .benchmark runFile resultFile ∧
    executor.loadRun files runFile = .ok run ∧ run.execute.outcome = .error failure

variable {executor : Executor} {files other : FileStore} {step : Step} {resultFile : String}
  {left : Option String}

/-- What a step leaves is all that it saves. -/
theorem Leaves.does (leaves : executor.Leaves files step left)
    (isResult : step.resultFile? = some resultFile) :
    ∃ first last,
      executor.Does files step first (left.map fun text => (resultFile, text)).toList last := by
  cases leaves with
  | @warmUp runFile _ index run loaded =>
      cases isResult
      rcases tells_warmUp loaded index resultFile with ⟨told, -, does⟩
      exact ⟨_, _, does⟩
  | @measure runFile cyclesFile _ index run cycles loaded counted =>
      cases isResult
      rcases tells_counted loaded counted index resultFile with ⟨told, -, does⟩
      exact ⟨_, _, does⟩
  | benchmark loaded =>
      cases isResult
      exact ⟨_, _, does_benchmark loaded resultFile⟩

theorem exists_leaves (isResult : step.resultFile? = some resultFile)
    (sound : ∀ error, ¬ executor.StepFault files step error) :
    ∃ left, executor.Leaves files step left := by
  have loads {runFile : String} (isAbout : step.runFile? = some runFile) :
      ∃ run, executor.loadRun files runFile = .ok run := by
    cases loaded : executor.loadRun files runFile with
    | ok run => exact ⟨run, rfl⟩
    | error error => exact absurd (.run isAbout loaded) (sound error)
  cases step with
  | list directory => cases isResult
  | endRun runFile samplesFile => cases isResult
  | storeResults resultsFile => cases isResult
  | warmUp runFile index resultFile =>
      rcases loads rfl with ⟨run, loaded⟩
      exact ⟨_, .warmUp loaded⟩
  | benchmark runFile resultFile =>
      rcases loads rfl with ⟨run, loaded⟩
      exact ⟨_, .benchmark loaded⟩
  | measure runFile index cyclesFile resultFile =>
      rcases loads rfl with ⟨run, loaded⟩
      cases counted : loadCycles files cyclesFile with
      | ok cycles => exact ⟨_, .measure loaded counted⟩
      | error error => exact absurd (.cycles counted) (sound error)

theorem Leaves.givesUp_iff (leaves : executor.Leaves files step left) :
    executor.GivesUp files step ↔ left = none := by
  cases leaves with
  | warmUp loaded => simp [GivesUp]
  | measure loaded counted => simp [GivesUp]
  | @benchmark runFile resultFile run loaded =>
      have noText : run.samplesText? = none ↔ ∃ failure, run.execute.outcome = .error failure := by
        cases outcome : run.execute.outcome with
        | ok samples => simp [PlannedRun.samplesText?, outcome, Except.toOption]
        | error failure => simp [PlannedRun.samplesText?, outcome, Except.toOption]
      rw [noText]
      constructor
      · rintro ⟨_, _, other, failure, same, otherLoaded, failed⟩
        cases same
        rw [loaded] at otherLoaded
        cases otherLoaded
        exact ⟨failure, failed⟩
      · rintro ⟨failure, failed⟩
        exact ⟨runFile, resultFile, run, failure, rfl, loaded, failed⟩

variable {request : StepRequest} {kept otherKept : Option String}

/-- A step that ends well has left something, or the result file is as it was. -/
theorem read?_step (isResult : request.step.resultFile? = some resultFile)
    (has : files.Has resultFile kept)
    (elsewhere : Route.placeOf resultFile ≠ Route.placeOf request.progressFile)
    (completed : (executor.step files request).ending = .ok ()) :
    ∃ left, executor.Leaves files request.step left ∧
      (executor.step files request).files.read? resultFile = left.or kept := by
  rcases executor.step_cases files request with ⟨error, -, ended, -⟩ | ⟨sound, -⟩
  · rw [ended] at completed
    cases completed
  · rcases exists_leaves isResult fun error fault => sound error (.step fault) with ⟨left, leaves⟩
    refine ⟨left, leaves, ?_⟩
    rcases request with ⟨progressFile, next⟩
    cases resumed : loadReporter executor.reporter files progressFile with
    | error error => exact absurd (.cursor resumed) (sound error)
    | ok reporter =>
        rcases leaves.does isResult with ⟨first, last, does⟩
        rcases step_of_resumed resumed next with ⟨looked, stepped⟩
        have enacts := does (((executor.workspace files).look looked).withReporter reporter) rfl rfl
        have ending := enacts.ending
        have after := enacts.files
        rw [stepped, Procedure.perform_bind] at completed ⊢
        generalize (executor.take next).perform
          (((executor.workspace files).look looked).withReporter reporter) = performed
            at ending after completed ⊢
        rcases performed with ⟨outcome, between⟩
        cases outcome with
        | error error => cases completed
        | ok value =>
            have hasAfter : between.files.Has resultFile (left.or kept) := by
              have same : between.files = (Effect.carryOut files _).files := after
              rw [same]
              exact has_carryOut has rfl ending.symm
            exact read?_leaveCursor hasAfter elsewhere

/-- What a step leaves depends on nothing but its inputs. -/
theorem Leaves.transfer (leaves : executor.Leaves files step left)
    (same : files.SameBut other resultFile kept otherKept)
    (apart : ∀ path ∈ step.inputs, Route.placeOf path ≠ Route.placeOf resultFile) :
    executor.Leaves other step left := by
  have loads {runFile : String} {run : PlannedRun} (isInput : runFile ∈ step.inputs)
      (loaded : executor.loadRun files runFile = .ok run) :
      executor.loadRun other runFile = .ok run := by
    rw [← loaded, loadRun, loadRun, FileStore.read, FileStore.read,
      same.read?_eq (apart runFile isInput)]
  cases leaves with
  | warmUp loaded => exact .warmUp (loads (by simp [Step.inputs]) loaded)
  | benchmark loaded => exact .benchmark (loads (by simp [Step.inputs]) loaded)
  | @measure runFile cyclesFile _ index run cycles loaded counted =>
      have isInput : cyclesFile ∈ Step.inputs (.measure runFile index cyclesFile resultFile) := by
        simp [Step.inputs]
      refine .measure (loads (by simp [Step.inputs]) loaded) ?_
      rw [← counted, loadCycles, loadCycles, FileStore.read, FileStore.read,
        same.read?_eq (apart cyclesFile isInput), same.holds_eq (apart cyclesFile isInput)]

theorem Leaves.unique {otherLeft : Option String} (leaves : executor.Leaves files step left)
    (otherLeaves : executor.Leaves files step otherLeft) : left = otherLeft := by
  cases leaves with
  | warmUp loaded =>
      cases otherLeaves with
      | warmUp otherLoaded =>
          rw [loaded] at otherLoaded
          cases otherLoaded
          rfl
  | measure loaded counted =>
      cases otherLeaves with
      | measure otherLoaded otherCounted =>
          rw [loaded] at otherLoaded
          rw [counted] at otherCounted
          cases otherLoaded
          cases otherCounted
          rfl
  | benchmark loaded =>
      cases otherLeaves with
      | benchmark otherLoaded =>
          rw [loaded] at otherLoaded
          cases otherLoaded
          rfl

/-- Whatever is in the result file before a step that ends well, the same is in it afterwards; but
where the step is a whole run that fails, it is just what was there before. -/
theorem resultFile_determined (isResult : request.step.resultFile? = some resultFile)
    (apart : ∀ path ∈ request.progressFile :: request.step.inputs,
      Route.placeOf path ≠ Route.placeOf resultFile)
    (same : files.SameBut other resultFile kept otherKept)
    (completed : (executor.step files request).ending = .ok ())
    (otherCompleted : (executor.step other request).ending = .ok ()) :
    ((executor.step files request).files.read? resultFile =
        (executor.step other request).files.read? resultFile ↔
      kept = otherKept ∨ ¬ executor.GivesUp files request.step) ∧
    (executor.GivesUp files request.step →
      (executor.step files request).files.read? resultFile = kept) := by
  rw [List.forall_mem_cons] at apart
  rcases apart with ⟨progressApart, inputsApart⟩
  rcases read?_step isResult same.has progressApart.symm completed with ⟨left, leaves, after⟩
  rcases read?_step isResult same.otherHas progressApart.symm otherCompleted with
    ⟨otherLeft, otherLeaves, otherAfter⟩
  have leftAgain := (leaves.transfer same inputsApart).unique otherLeaves
  subst leftAgain
  rw [after, otherAfter, leaves.givesUp_iff]
  cases left with
  | none => simp
  | some text => simp

end Executor

namespace Demonstration

def reading : ScriptedBenchmark := ⟨"read", .plain, [500], none, 0, none⟩

/-- A suite whose instances never get ready. -/
def unready : ScriptedSuite where
  name := "demo.Unready"
  parameters := []
  defaults := Defaults.standard
  panics := [⟨.setup, .text "no disk", none⟩]
  benchmarks := [reading]

def unreadyExecutor : Executor := .create configuration [unready.suite]

def unreadyRun : PlannedRun :=
  ⟨⟨unready.suite, 0, reading.benchmark⟩, .empty, configuration.resolve unready.suite.defaults⟩

/-- The run is described, and there may be something in the file for its samples. -/
def unreadyFiles (kept : Option String) : FileStore where
  entries :=
    ("run", .file unreadyRun.descriptor.text) ::
      (kept.map fun text => ("samples", .file text)).toList

def unreadyRequest : StepRequest := ⟨"cursor", .benchmark "run" "samples"⟩

theorem isFileName_unready : ∀ path ∈ ["cursor", "run", "samples"], Route.IsFileName path := by
  simp only [List.forall_mem_cons, List.not_mem_nil, false_implies, implies_true, and_true]
  refine ⟨?_, ?_, ?_⟩ <;>
    exact ⟨by simp [Route.isName, Route.nameLimit]; decide, by decide, by decide⟩

/-- Only the root is around the root. -/
theorem around_root : Route.around WorkingDirectory.names = [""] := rfl

theorem at?_unready (kept : Option String) (place : String) (named : place ≠ "") :
    (unreadyFiles kept).at? place =
      if place = "run" then some (.file unreadyRun.descriptor.text)
      else if place = "samples" then kept.map .file else none := by
  cases kept <;> simp [FileStore.at?, around_root, named, unreadyFiles, Entries.find?, eq_comm]

theorem has_unready (kept : Option String) : (unreadyFiles kept).Has "samples" kept := by
  have fileName := isFileName_unready "samples" (by simp)
  have present : (unreadyFiles kept).at? "samples" = kept.map .file := by simp [at?_unready]
  cases kept with
  | none => simpa [FileStore.Has, FileStore.IsVacant, placeOf_root fileName] using present
  | some text =>
      simp [FileStore.Has, FileStore.read?, FileStore.lookUp?_fileName fileName,
        placeOf_root fileName, present]

theorem sameBut_unready (kept otherKept : Option String) :
    (unreadyFiles kept).SameBut (unreadyFiles otherKept) "samples" kept otherKept := by
  refine ⟨?_, has_unready kept, has_unready otherKept⟩
  rw [placeOf_root (isFileName_unready "samples" (by simp))]
  intro place other
  by_cases named : place = ""
  · simp [FileStore.at?, around_root, named]
  · simp [at?_unready _ place named, other]

theorem loadRun_unready (kept : Option String) :
    unreadyExecutor.loadRun (unreadyFiles kept) "run" = .ok unreadyRun := by
  have runs : unreadyExecutor.runs = [unreadyRun] := rfl
  apply Executor.loadRun_described
  · decide
  · simp [runs]
  · have fileName := isFileName_unready "run" (by simp)
    simp [FileStore.read?, FileStore.lookUp?_fileName fileName, placeOf_root fileName, at?_unready]

theorem givesUp_unready (kept : Option String) :
    unreadyExecutor.GivesUp (unreadyFiles kept) unreadyRequest.step :=
  ⟨_, _, unreadyRun, _, rfl, loadRun_unready kept, rfl⟩

theorem completed_unready (kept : Option String) :
    (unreadyExecutor.step (unreadyFiles kept) unreadyRequest).ending = .ok () := by
  have admits : (unreadyFiles kept).Admits ["cursor", "run", "samples"] := by
    apply FileStore.admits_fileNames isFileName_unready
    intro path member
    rw [placeOf_root (isFileName_unready path member),
      at?_unready kept path (by rintro rfl; simp at member)]
    cases kept <;> grind
  have isPath : "cursor" ∈ ["cursor", "run", "samples"] := by simp
  have noSamples : unreadyRun.samplesText? = none := rfl
  rcases Executor.exists_loadReporter unreadyExecutor.reporter admits isPath with
    ⟨reporter, resumed⟩
  have does := Executor.does_benchmark (loadRun_unready kept) "samples"
  rw [noSamples] at does
  exact (does.isComplete resumed admits isPath (by simp) (by simp)).ending

theorem after_unready (kept : Option String) :
    (unreadyExecutor.step (unreadyFiles kept) unreadyRequest).files.read? "samples" = kept := by
  have elsewhere : Route.placeOf "samples" ≠ Route.placeOf "cursor" := by
    rw [placeOf_root (isFileName_unready "samples" (by simp)),
      placeOf_root (isFileName_unready "cursor" (by simp))]
    decide
  rcases Executor.read?_step rfl (has_unready kept) elsewhere (completed_unready kept) with
    ⟨left, leaves, after⟩
  rw [leaves.givesUp_iff.mp (givesUp_unready kept)] at after
  simpa using after

/-- The samples of an earlier run are still there after a run that failed, and are taken for its
own. -/
theorem resultFile_stale :
    let stale := unreadyExecutor.step (unreadyFiles (some "0.2")) unreadyRequest
    let fresh := unreadyExecutor.step (unreadyFiles none) unreadyRequest
    (unreadyFiles (some "0.2")).SameBut (unreadyFiles none) "samples" (some "0.2") none ∧
      stale.ending = .ok () ∧ fresh.ending = .ok () ∧
      fresh.files.read? "samples" = none ∧ stale.files.read? "samples" = some "0.2" ∧
      ∃ samples, Executor.loadSamples stale.files "samples" = .ok samples := by
  refine ⟨sameBut_unready _ _, completed_unready _, completed_unready _, after_unready _,
    after_unready _, ?_⟩
  rw [Executor.loadSamples, FileStore.read, after_unready]
  exact ⟨_, rfl⟩

/-- Two different texts stay different, for no other reason than that the run failed. -/
theorem resultFile_determined_unready :
    (∀ path ∈ unreadyRequest.progressFile :: unreadyRequest.step.inputs,
        Route.placeOf path ≠ Route.placeOf "samples") ∧
      ((unreadyExecutor.step (unreadyFiles (some "0.2")) unreadyRequest).files.read? "samples" =
          (unreadyExecutor.step (unreadyFiles (some "null")) unreadyRequest).files.read? "samples" ↔
        some "0.2" = some "null" ∨
          ¬ unreadyExecutor.GivesUp (unreadyFiles (some "0.2")) unreadyRequest.step) := by
  have place {path : String} (member : path ∈ ["cursor", "run", "samples"]) :
      Route.placeOf path = path :=
    placeOf_root (isFileName_unready path member)
  have apart : ∀ path ∈ unreadyRequest.progressFile :: unreadyRequest.step.inputs,
      Route.placeOf path ≠ Route.placeOf "samples" := by
    simp [unreadyRequest, Step.inputs, place]
  exact ⟨apart, (Executor.resultFile_determined rfl apart (sameBut_unready _ _)
    (completed_unready _) (completed_unready _)).1⟩

end Demonstration

end Microbench
