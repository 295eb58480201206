import Microbench.CommandLine.Surroundings
import Microbench.Proofs.Runner.Effects
import Microbench.Suite.Demonstration

/-!
# Executions in one process

An execution in one process tells its start, all about its runs and its end, and then saves the
report. Its results are those of its own runs.
-/

namespace Microbench

namespace PlannedRun

/-- The calls about a whole run, in an execution of some name. -/
def calls (run : PlannedRun) (name : String) (execution : Execution (List Binary64)) :
    List ReporterCall :=
  let ending := match execution.outcome with
    | .ok samples => run.successCall name samples
    | .error failure => run.failureCall name failure
  run.startCall name :: run.outputCalls name execution.lines ++ [ending]

/-- The result of a run, unless it failed. -/
def result? (run : PlannedRun) (execution : Execution (List Binary64)) : Option RunResult :=
  execution.outcome.toOption.map run.result

/-- The calls about whole runs, one after the other. -/
def allCalls (name : String) (runs : List PlannedRun) : List ReporterCall :=
  runs.flatMap fun run => run.calls name run.execute

/-- The results of whole runs, without those that failed. -/
def allResults (runs : List PlannedRun) : List RunResult :=
  runs.filterMap fun run => run.result? run.execute

end PlannedRun

/-- A procedure has told some calls and kept some results, and nothing else. -/
structure Workspace.HasGained (after before : Workspace) (calls : List ReporterCall)
    (results : List RunResult) : Prop where
  files : after.files = before.files
  heard : after.HasHeard before calls
  results : after.results = before.results ++ results

namespace Workspace

theorem HasGained.trans {before between after : Workspace} {earlier later : List ReporterCall}
    {first second : List RunResult} (gained : between.HasGained before earlier first)
    (gains : after.HasGained between later second) :
    after.HasGained before (earlier ++ later) (first ++ second) where
  files := gains.files.trans gained.files
  heard := gained.heard.trans gains.heard
  results := by rw [gains.results, gained.results, List.append_assoc]

variable (space : Workspace)

theorem hasGained_refl : space.HasGained space [] [] :=
  ⟨rfl, .of_silent rfl rfl rfl, (List.append_nil _).symm⟩

theorem hasGained_tell (call : ReporterCall) : (space.tell call).HasGained space [call] [] :=
  ⟨rfl, space.hasHeard_tell call, (List.append_nil _).symm⟩

theorem hasGained_keep (result : RunResult) :
    (space.withResults (space.results ++ [result])).HasGained space [] [result] :=
  ⟨rfl, .of_silent rfl rfl rfl, rfl⟩

/-- Code that runs leaves what it has to say. -/
theorem hasGained_perform (journal : Journal) (calls : List ReporterCall) :
    ((space.record (.ran journal)).tellAll calls).HasGained space calls [] where
  files := files_tellAll _ _
  heard := (space.hasHeard_record rfl).trans (hasHeard_tellAll _ calls)
  results := by
    rw [results_tellAll, List.append_nil]
    rfl

end Workspace

namespace Executor

/-- A run is told and leaves its result, whatever becomes of it. -/
theorem perform_execute (executor : Executor) (run : PlannedRun) (space : Workspace) :
    ∃ after, (executor.execute run).perform space = (.ok (), after) ∧
      after.HasGained space (run.calls executor.name run.execute)
        (run.result? run.execute).toList := by
  have begun := space.hasGained_tell (run.startCall executor.name)
  have performed := begun.trans (Workspace.hasGained_perform _ run.execute.journal
    (run.outputCalls executor.name run.execute.lines))
  rw [execute, PlannedRun.calls, PlannedRun.result?]
  simp only [Procedure.perform_bind, Procedure.perform_tell, PlannedRun.perform_perform]
  cases run.execute.outcome with
  | ok samples =>
      have told := performed.trans
        (Workspace.hasGained_tell _ (run.successCall executor.name samples))
      have kept := told.trans (Workspace.hasGained_keep _ (run.result samples))
      exact ⟨_, rfl, by simpa [Except.toOption] using kept⟩
  | error failure =>
      have told := performed.trans
        (Workspace.hasGained_tell _ (run.failureCall executor.name failure))
      exact ⟨_, rfl, by simpa [Except.toOption] using told⟩

/-- Runs are executed one after the other, whatever becomes of each. -/
theorem perform_executeAll (executor : Executor) (runs : List PlannedRun) (space : Workspace) :
    ∃ after, (executor.executeAll runs).perform space = (.ok (), after) ∧
      after.HasGained space (PlannedRun.allCalls executor.name runs)
        (PlannedRun.allResults runs) := by
  induction runs generalizing space with
  | nil => exact ⟨space, rfl, space.hasGained_refl⟩
  | cons run runs ih =>
      rcases executor.perform_execute run space with ⟨between, performed, first⟩
      rcases ih between with ⟨after, performedLater, later⟩
      refine ⟨after, ?_, ?_⟩
      · rw [executeAll, Procedure.perform_bind, performed]
        exact performedLater
      · have results : PlannedRun.allResults (run :: runs) =
            (run.result? run.execute).toList ++ PlannedRun.allResults runs := by
          rw [PlannedRun.allResults, List.filterMap_cons]
          cases run.result? run.execute <;> rfl
        rw [results]
        exact first.trans later

def report (executor : Executor) (results : List RunResult) : String :=
  executor.configuration.reportFormat.render results

/-- The call that ends an execution with some results. -/
def endCall (executor : Executor) (results : List RunResult) : ReporterCall :=
  .endSuite executor.name (ReportFormat.text.render results)

/-- An execution is completed with its end and its report. -/
theorem enacts_complete [WorkingDirectory] (executor : Executor) (space : Workspace) :
    executor.complete.Enacts space
      [.report (executor.endCall space.results),
        .save executor.configuration.reportFile (executor.report space.results)] := by
  have told := Procedure.perform_tell (executor.endCall space.results) space
  have heard := space.hasHeard_tell (executor.endCall space.results)
  rw [complete]
  refine .after_silence (Procedure.perform_get space) rfl (.of_silent rfl rfl rfl) ?_
  exact Procedure.Enacts.after told rfl heard (.save _ _ _)

theorem results_complete [WorkingDirectory] (executor : Executor) (space : Workspace) :
    (executor.complete.perform space).2.results = space.results := by
  simp only [complete, Procedure.perform_bind, Procedure.perform_get, Procedure.perform_tell,
    Procedure.perform_save]
  split <;> rfl

section Execution

variable [PatternLanguage]

/-- The runs that an executor selects; none if its selection is wrong. -/
def runs (executor : Executor) : List PlannedRun :=
  (selectRuns executor.suites executor.configuration).toOption.getD []

variable {executor : Executor} {runs : List PlannedRun}

theorem runs_eq (selected : selectRuns executor.suites executor.configuration = .ok runs) :
    executor.runs = runs := by
  rw [Executor.runs, selected]
  rfl

variable [WorkingDirectory]

/-- What the reporter is told by an execution in one process. -/
def calls (executor : Executor) (files : FileStore) : List ReporterCall :=
  (executor.run files).calls

/-- An execution in one process is all its calls, and then the report. -/
theorem enacts_execution
    (selected : selectRuns executor.suites executor.configuration = .ok runs) (space : Workspace) :
    executor.execution.Enacts space
        ((.startSuite executor.name :: PlannedRun.allCalls executor.name runs ++
            [executor.endCall (PlannedRun.allResults runs)]).map .report ++
          [.save executor.configuration.reportFile
            (executor.report (PlannedRun.allResults runs))]) ∧
      (executor.execution.perform space).2.results = PlannedRun.allResults runs := by
  -- Results of earlier executions are forgotten.
  have started := (Workspace.hasGained_tell (space.withResults []) (.startSuite executor.name))
  rcases executor.perform_executeAll runs ((space.withResults []).tell (.startSuite executor.name))
    with ⟨executed, performed, gained⟩
  have both := started.trans gained
  have completed := executor.enacts_complete executed
  have results : executed.results = PlannedRun.allResults runs := both.results
  rw [results] at completed
  have whole : executor.execution.perform space = executor.complete.perform executed := by
    rw [execution, selected]
    simp only [Procedure.perform_bind, Procedure.perform_liftM, Procedure.perform_modify,
      Procedure.perform_tell, performed]
  constructor
  · have heard : executed.HasHeard space
        (.startSuite executor.name :: PlannedRun.allCalls executor.name runs) := by
      exact ⟨both.heard.reporter, both.heard.lines, both.heard.calls⟩
    have enacts := Procedure.Enacts.of_whole whole both.files heard completed
    simpa using enacts
  · rw [whole, results_complete, results]

/-- The calls of an execution in one process. -/
theorem calls_eq (selected : selectRuns executor.suites executor.configuration = .ok runs)
    (files : FileStore) :
    executor.calls files =
      .startSuite executor.name :: PlannedRun.allCalls executor.name runs ++
        [executor.endCall (PlannedRun.allResults runs)] := by
  rcases enacts_execution selected (executor.workspace files) with ⟨enacts, -⟩
  have heard := enacts.heard.calls
  rw [Effect.carryOut_reports] at heard
  have told : executor.calls files = _ := heard
  rw [told]
  -- Nothing is told after the report, whether it can be written or not.
  rw [Effect.carryOut]
  split
  · simp [Workspace.calls, workspace]
  · simp [Workspace.calls, workspace, Effect.carryOut]

theorem run_of_written {files later : FileStore}
    (selected : selectRuns executor.suites executor.configuration = .ok runs)
    (written : files.write? executor.configuration.reportFile
      (executor.report (PlannedRun.allResults runs)) = some later) :
    (executor.run files).files = later ∧ (executor.run files).ending = .ok () := by
  rcases enacts_execution selected (executor.workspace files) with ⟨enacts, -⟩
  exact enacts.saved written

theorem run_of_unwritable {files : FileStore}
    (selected : selectRuns executor.suites executor.configuration = .ok runs)
    (refused : files.write? executor.configuration.reportFile
      (executor.report (PlannedRun.allResults runs)) = none) :
    (executor.run files).files = files ∧
      (executor.run files).ending = .error (.unwritable executor.configuration.reportFile) := by
  rcases enacts_execution selected (executor.workspace files) with ⟨enacts, -⟩
  exact enacts.unsaved refused

/-- An executor whose selection is wrong does nothing at all. -/
theorem run_of_refused {error : ExecutorError}
    (refused : selectRuns executor.suites executor.configuration = .error error)
    (files : FileStore) :
    executor.run files = ⟨executor, files, [], [], .error error⟩ := by
  have performed : executor.execution.perform (executor.workspace files) =
      (.error error, executor.workspace files) := by
    rw [execution, refused]
    rfl
  rw [run, carryOut, performed]
  rfl

/-- The lines of an execution in one process are those of its calls. -/
theorem lines_run (executor : Executor) (files : FileStore) :
    (executor.run files).lines = (executor.reporter.reportAll (executor.calls files)).2 := by
  cases selected : selectRuns executor.suites executor.configuration with
  | error error => rw [calls, run_of_refused selected files]; rfl
  | ok runs =>
      rcases enacts_execution selected (executor.workspace files) with ⟨enacts, -⟩
      have told : executor.calls files = _ := enacts.heard.calls
      rw [told]
      exact enacts.heard.lines

end Execution

end Executor

namespace Demonstration

/-- A configuration that selects everything. -/
def configuration : RunnerConfiguration where
  name := "demo"
  reportFile := "report.json"
  traceFormat := .xml
  reportFormat := .json
  parameters := .empty
  included := []
  excluded := []
  overrides := .none
  advanced := .empty

/-- An executor of the suite in which a benchmark panics. -/
def executor : Executor := .create configuration [failing.suite]

end Demonstration

end Microbench
