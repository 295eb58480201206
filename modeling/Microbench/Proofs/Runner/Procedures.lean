import Microbench.Runner.Step

/-!
# What procedures leave

A procedure goes on from the workspace that the part before it leaves, unless this part ends with an
error. Each part that loads something only looks at files: what it loads depends on the files alone,
and nothing but the record of what was looked at is different afterwards.
-/

namespace Microbench

namespace Workspace

/-- Files are looked at. -/
def look (space : Workspace) (paths : List String) : Workspace :=
  { space with trace := space.trace ++ paths.map .looked }

@[simp]
theorem files_look (space : Workspace) (paths : List String) :
    (space.look paths).files = space.files :=
  rfl

theorem look_nil (space : Workspace) : space.look [] = space := by
  simp [look]

theorem look_look (space : Workspace) (paths others : List String) :
    (space.look paths).look others = space.look (paths ++ others) := by
  simp [look]

/-- The reporter is told one thing after the other. -/
def tellAll (space : Workspace) (calls : List ReporterCall) : Workspace :=
  calls.foldl tell space

end Workspace

namespace Procedure

variable {α β : Type}

@[simp]
theorem perform_pure (value : α) (space : Workspace) :
    (pure value : Procedure α).perform space = (.ok value, space) :=
  rfl

@[simp]
theorem perform_liftM (outcome : Except ExecutorError α) (space : Workspace) :
    (liftM outcome : Procedure α).perform space = (outcome, space) :=
  rfl

@[simp]
theorem perform_get (space : Workspace) : perform get space = (.ok space, space) :=
  rfl

@[simp]
theorem perform_modify (change : Workspace → Workspace) (space : Workspace) :
    perform (modify change) space = (.ok (), change space) :=
  rfl

/-- A procedure goes on from where its first part ends, if this part ends well. -/
@[simp]
theorem perform_bind (first : Procedure α) (later : α → Procedure β) (space : Workspace) :
    (first >>= later).perform space =
      match first.perform space with
      | (.ok value, between) => (later value).perform between
      | (.error error, between) => (.error error, between) := by
  have shape : (first >>= later).perform space =
      let (outcome, between) := first.perform space
      (ExceptT.bindCont later outcome).run between := rfl
  rw [shape]
  rcases first.perform space with ⟨outcome, between⟩
  cases outcome <;> rfl

@[simp]
theorem perform_note (occurrence : Occurrence) (space : Workspace) :
    (note occurrence).perform space = (.ok (), space.record occurrence) :=
  rfl

@[simp]
theorem perform_finds [WorkingDirectory] (path : String) (space : Workspace) :
    (finds path).perform space = (.ok (space.files.holds path), space.look [path]) :=
  rfl

@[simp]
theorem perform_read [WorkingDirectory] (path : String) (space : Workspace) :
    (read path).perform space = (space.files.read path, space.look [path]) :=
  rfl

@[simp]
theorem perform_tell (call : ReporterCall) (space : Workspace) :
    (tell call).perform space = (.ok (), space.tell call) :=
  rfl

@[simp]
theorem perform_tellAll (calls : List ReporterCall) (space : Workspace) :
    (tellAll calls).perform space = (.ok (), space.tellAll calls) := by
  induction calls generalizing space with
  | nil => rfl
  | cons call calls ih =>
      rw [tellAll, perform_bind, perform_tell]
      exact ih (space.tell call)

theorem perform_save [WorkingDirectory] (path text : String) (space : Workspace) :
    (save path text).perform space =
      match space.files.write? path text with
      | some files => (.ok (), (space.record (.saved path text)).withFiles files)
      | none => (.error (.unwritable path), space.record (.saved path text)) := by
  rw [save, perform_bind, perform_note]
  simp only [perform_bind, perform_get]
  have same : (space.record (.saved path text)).files = space.files := rfl
  rw [same]
  cases space.files.write? path text <;> rfl

end Procedure

namespace PlannedRun

@[simp]
theorem perform_perform {α : Type} (run : PlannedRun) (name : String) (execution : Execution α)
    (space : Workspace) :
    (run.perform name execution).perform space =
      (.ok execution.outcome, (space.record (.ran execution.journal)).tellAll
        (run.outputCalls name execution.lines)) := by
  rw [perform]
  simp only [Procedure.perform_bind, Procedure.perform_note, Procedure.perform_tellAll,
    Procedure.perform_pure]

end PlannedRun

namespace Executor

variable [WorkingDirectory]

section Runs

variable [PatternLanguage] (executor : Executor)

/-- The run that the descriptor in a file is about. -/
def loadRun (files : FileStore) (path : String) : Except ExecutorError PlannedRun := do
  let text ← files.read path
  executor.runOf path text

/-- The result that a line of a file has. -/
def loadResult (files : FileStore) (path : String) (line : List Char) :
    Except ExecutorError RunResult := do
  let line ← FileFault.inFile .results path (ResultLine.read line)
  let samples ← FileFault.inFile .results path (Samples.read line.samples)
  let run ← executor.loadRun files line.path
  return run.result samples

/-- The results that lines have, after earlier ones, up to the first line with a fault. -/
def loadResults (files : FileStore) (path : String) :
    List RunResult → List (List Char) → Except ExecutorError Unit × List RunResult
  | results, [] => (.ok (), results)
  | results, line :: lines =>
    match executor.loadResult files path line with
    | .error error => (.error error, results)
    | .ok result => loadResults files path (results ++ [result]) lines

theorem perform_fetchRun (path : String) (space : Workspace) :
    (executor.fetchRun path).perform space =
      (executor.loadRun space.files path, space.look [path]) := by
  rw [fetchRun, loadRun, Procedure.perform_bind, Procedure.perform_read]
  cases space.files.read path <;> rfl

/-- The result that a line has is kept, and nothing else changes. -/
theorem perform_fetchResult (path : String) (line : List Char) (space : Workspace) :
    ∃ paths, (executor.fetchResult path line).perform space =
      match executor.loadResult space.files path line with
      | .ok result => (.ok (), (space.look paths).withResults (space.results ++ [result]))
      | .error error => (.error error, space.look paths) := by
  rw [fetchResult, loadResult]
  simp only [Procedure.perform_bind, Procedure.perform_liftM]
  cases FileFault.inFile .results path (ResultLine.read line) with
  | error error => exact ⟨[], by rw [Workspace.look_nil]; rfl⟩
  | ok line =>
      simp only [bind, Except.bind]
      cases FileFault.inFile .results path (Samples.read line.samples) with
      | error error => exact ⟨[], by rw [Workspace.look_nil]⟩
      | ok samples =>
          refine ⟨[line.path], ?_⟩
          simp only [perform_fetchRun]
          cases executor.loadRun space.files line.path <;> rfl

/-- The results that lines have are kept, and nothing else changes. -/
theorem perform_fetchResults (path : String) (lines : List (List Char)) (space : Workspace) :
    ∃ paths, (executor.fetchResults path lines).perform space =
      ((executor.loadResults space.files path space.results lines).1,
        (space.look paths).withResults
          (executor.loadResults space.files path space.results lines).2) := by
  induction lines generalizing space with
  | nil => exact ⟨[], by rw [Workspace.look_nil]; rfl⟩
  | cons line lines ih =>
      rcases executor.perform_fetchResult path line space with ⟨paths, first⟩
      rw [fetchResults, loadResults, Procedure.perform_bind, first]
      cases executor.loadResult space.files path line with
      | error error => exact ⟨paths, rfl⟩
      | ok result =>
          rcases ih ((space.look paths).withResults (space.results ++ [result])) with
            ⟨others, later⟩
          refine ⟨paths ++ others, ?_⟩
          rw [← Workspace.look_look]
          exact later

end Runs

/-- The number of invocations that a file has; 1 if the file is missing. -/
def loadCycles (files : FileStore) (path : String) : Except ExecutorError UInt64 := do
  if files.holds path then
    FileFault.inFile .cycles path (readCycles (← files.read path))
  else .ok 1

def loadSamples (files : FileStore) (path : String) :
    Except ExecutorError (List Binary64) := do
  FileFault.inFile .samples path (Samples.read (← files.read path).toList)

/-- Where the reporter goes on: at the cursor in a file, if the file is there. -/
def loadReporter (reporter : Reporter) (files : FileStore) (path : String) :
    Except ExecutorError Reporter := do
  if files.holds path then
    return reporter.restore (Cursor.decode (← files.read path))
  else .ok reporter

theorem perform_fetchCycles (path : String) (space : Workspace) :
    ∃ paths, (fetchCycles path).perform space =
      (loadCycles space.files path, space.look paths) := by
  rw [fetchCycles, loadCycles, Procedure.perform_bind, Procedure.perform_finds]
  cases space.files.holds path with
  | false => exact ⟨[path], rfl⟩
  | true =>
      refine ⟨[path, path], ?_⟩
      simp only [if_true, Procedure.perform_bind, Procedure.perform_read, Workspace.files_look,
        Workspace.look_look]
      cases space.files.read path <;> rfl

theorem perform_fetchSamples (path : String) (space : Workspace) :
    (fetchSamples path).perform space =
      (loadSamples space.files path, space.look [path]) := by
  rw [fetchSamples, loadSamples, Procedure.perform_bind, Procedure.perform_read]
  cases space.files.read path <;> rfl

/-- The reporter is put where it goes on, and nothing else changes. -/
theorem perform_resume (path : String) (space : Workspace) :
    ∃ paths, (resume path).perform space =
      match loadReporter space.reporter space.files path with
      | .ok reporter => (.ok (), (space.look paths).withReporter reporter)
      | .error error => (.error error, space.look paths) := by
  rw [resume, loadReporter, Procedure.perform_bind, Procedure.perform_finds]
  cases space.files.holds path with
  | false => exact ⟨[path], rfl⟩
  | true =>
      refine ⟨[path, path], ?_⟩
      simp only [if_true, Procedure.perform_bind, Procedure.perform_read, Workspace.files_look,
        Workspace.look_look]
      cases space.files.read path <;> rfl

theorem perform_leaveCursor (path : String) (space : Workspace) :
    (leaveCursor path).perform space =
      match space.reporter.cursor? with
      | some cursor => (Procedure.save path cursor.encode).perform space
      | none => (.ok (), space) := by
  simp only [leaveCursor, Procedure.perform_bind, Procedure.perform_get]
  cases space.reporter.cursor? <;> rfl

section Steps

variable [PatternLanguage] {executor : Executor} {files : FileStore} {progressFile : String}

/-- A step that finds the reporter somewhere does its work from there, and leaves the cursor. -/
theorem step_of_resumed {reporter : Reporter}
    (resumed : loadReporter executor.reporter files progressFile = .ok reporter) (next : Step) :
    ∃ looked, executor.step files ⟨progressFile, next⟩ = executor.outcomeOf
      ((executor.take next >>= fun _ => leaveCursor progressFile).perform
        (((executor.workspace files).look looked).withReporter reporter)) := by
  rcases perform_resume progressFile (executor.workspace files) with ⟨looked, begun⟩
  have found : loadReporter (executor.workspace files).reporter (executor.workspace files).files
      progressFile = .ok reporter := resumed
  rw [found] at begun
  refine ⟨looked, ?_⟩
  rw [step, carryOut, Procedure.perform_bind, begun]

/-- A step that cannot load the cursor does nothing else. -/
theorem step_of_unresumed {error : ExecutorError}
    (refused : loadReporter executor.reporter files progressFile = .error error) (next : Step) :
    ∃ looked, executor.step files ⟨progressFile, next⟩ =
      executor.outcomeOf (.error error, (executor.workspace files).look looked) := by
  rcases perform_resume progressFile (executor.workspace files) with ⟨looked, begun⟩
  have found : loadReporter (executor.workspace files).reporter (executor.workspace files).files
      progressFile = .error error := refused
  rw [found] at begun
  refine ⟨looked, ?_⟩
  rw [step, carryOut, Procedure.perform_bind, begun]

end Steps

end Executor

end Microbench
