import Microbench.Proofs.Files.Frame
import Microbench.Proofs.Progress.Cursor
import Microbench.Proofs.Runner.Executions
import Microbench.Runner.Step

/-!
# Steps in processes of their own

A host program takes the steps of an execution one after the other, each in a new process with a
new executor; only files are left in between. Whatever the steps are, the reporter goes on where the
step before has stopped: the progress of the host is that of one reporter that was given the calls
of all steps.
-/

namespace Microbench

variable [WorkingDirectory]

namespace Effect

/-- Files that do not get in each other's way are saved one after the other. -/
theorem carryOut_saves {files : FileStore} {paths : List String} (admits : files.Admits paths)
    {saves : List (String × String)} (members : ∀ save ∈ saves, save.1 ∈ paths)
    (distinct : (saves.map fun save => Route.placeOf save.1).Nodup) :
    ∃ after, after.Admits paths ∧
      (∀ effects, carryOut files (saves.map (fun save => .save save.1 save.2) ++ effects) =
        carryOut after effects) ∧
      (∀ save ∈ saves, after.read? save.1 = some save.2) ∧
      ∀ path ∈ paths, (∀ save ∈ saves, Route.placeOf path ≠ Route.placeOf save.1) →
        FileStore.Keeps files after path := by
  induction saves generalizing files with
  | nil => exact ⟨files, admits, fun _ => rfl, by simp, fun path _ _ => .refl files path⟩
  | cons save saves ih =>
      have member := members save (by simp)
      rw [List.map_cons, List.nodup_cons, List.mem_map, not_exists] at distinct
      rcases admits.write? member save.2 with ⟨between, written⟩
      have others : ∀ other ∈ saves, other.1 ∈ paths := fun other inSaves =>
        members other (List.mem_cons_of_mem save inSaves)
      rcases ih (admits.after member written) others distinct.2 with
        ⟨after, admitted, rest, reads, keeps⟩
      refine ⟨after, admitted, ?_, ?_, ?_⟩
      · intro effects
        rw [List.map_cons, List.cons_append, carryOut_save written, rest]
      · intro other inSaves
        rcases List.mem_cons.mp inSaves with rfl | later
        · -- The first file is not overwritten, since the others are in other places.
          have kept := keeps other.1 member fun again inRest same =>
            distinct.1 again ⟨inRest, same.symm⟩
          exact kept.reads other.2 (FileStore.read?_write written)
        · exact reads other later
      · intro path inPaths elsewhere
        have first := admits.keeps member written inPaths (elsewhere save (by simp))
        have others := keeps path inPaths fun again inRest => elsewhere again (by simp [inRest])
        exact first.trans others

end Effect

namespace Executor

/-- A step finds the reporter somewhere if the file of the cursor can be written. -/
theorem exists_loadReporter {files : FileStore} {progressFile : String} {paths : List String}
    (reporter : Reporter) (admits : files.Admits paths)
    (member : progressFile ∈ paths) :
    ∃ resumed, loadReporter reporter files progressFile = .ok resumed := by
  rw [loadReporter]
  cases present : files.holds progressFile with
  | false => exact ⟨reporter, rfl⟩
  | true =>
      rcases admits.read?_of_holds member present with ⟨text, reads⟩
      rw [FileStore.read, reads]
      exact ⟨reporter.restore (Cursor.decode text), rfl⟩

/-- The cursor is left, if there is one, and no other file. -/
theorem exists_leaveCursor {space : Workspace} {progressFile : String} {paths : List String}
    (admits : space.files.Admits paths) (member : progressFile ∈ paths) :
    ∃ after, (leaveCursor progressFile).perform space = (.ok (), after) ∧
      after.HasHeard space [] ∧ after.files.Admits paths ∧
      (∀ cursor, space.reporter.cursor? = some cursor →
        after.files.read? progressFile = some cursor.encode) ∧
      ∀ path ∈ paths, Route.placeOf path ≠ Route.placeOf progressFile →
        FileStore.Keeps space.files after.files path := by
  rw [perform_leaveCursor]
  cases reporter : space.reporter.cursor? with
  | none =>
      refine ⟨space, rfl, .of_silent rfl rfl rfl, admits, ?_, fun path _ _ => .refl _ path⟩
      intro cursor same
      cases same
  | some cursor =>
      rcases admits.write? member cursor.encode with ⟨later, written⟩
      have saved := Procedure.perform_save progressFile cursor.encode space
      rw [written] at saved
      refine ⟨_, saved, space.hasHeard_save _ _ later, admits.after member written, ?_, ?_⟩
      · intro other same
        cases same
        exact FileStore.read?_write written
      · intro path inPaths elsewhere
        exact admits.keeps member written inPaths elsewhere

end Executor

/-- A step has given some calls to a reporter and saved some files; the reporter's cursor is left,
and nothing else has changed. -/
structure Outcome.IsComplete (outcome : Outcome) (files : FileStore) (progressFile : String)
    (paths : List String) (reporter : Reporter) (calls : List ReporterCall)
    (saves : List (String × String)) : Prop where
  ending : outcome.ending = .ok ()
  told : outcome.calls = calls
  lines : outcome.lines = (reporter.reportAll calls).2
  admits : outcome.files.Admits paths
  kept : ∀ cursor, (reporter.reportAll calls).1.cursor? = some cursor →
    outcome.files.read? progressFile = some cursor.encode
  saved : ∀ save ∈ saves, Route.placeOf save.1 ≠ Route.placeOf progressFile →
    outcome.files.read? save.1 = some save.2
  keeps : ∀ path ∈ paths, Route.placeOf path ≠ Route.placeOf progressFile →
    (∀ save ∈ saves, Route.placeOf path ≠ Route.placeOf save.1) →
      FileStore.Keeps files outcome.files path

namespace Executor

section Completion

variable [PatternLanguage]

/-- A step tells something, saves files, and tells something more, whatever the reporter is. -/
def Does (executor : Executor) (files : FileStore) (next : Step) (first : List ReporterCall)
    (saves : List (String × String)) (last : List ReporterCall) : Prop :=
  ∀ space : Workspace, space.files = files → space.results = executor.results →
    (executor.take next).Enacts space
      (first.map .report ++ saves.map (fun save => .save save.1 save.2) ++ last.map .report)

variable {executor : Executor} {files : FileStore} {progressFile : String} {paths : List String}
  {reporter : Reporter} {next : Step} {first last : List ReporterCall}
  {saves : List (String × String)}

/-- What a step does is done in full if its files do not get in each other's way. -/
theorem Does.perform (does : executor.Does files next first saves last)
    (admits : files.Admits paths) (members : ∀ save ∈ saves, save.1 ∈ paths)
    (distinct : (saves.map fun save => Route.placeOf save.1).Nodup) {space : Workspace}
    (here : space.files = files) (unused : space.results = executor.results) :
    ∃ after, (executor.take next).perform space = (.ok (), after) ∧
      after.HasHeard space (first ++ last) ∧ after.files.Admits paths ∧
      (∀ save ∈ saves, after.files.read? save.1 = some save.2) ∧
      ∀ path ∈ paths, (∀ save ∈ saves, Route.placeOf path ≠ Route.placeOf save.1) →
        FileStore.Keeps files after.files path := by
  have enacts := does space here unused
  rcases Effect.carryOut_saves admits members distinct with ⟨later, admitted, rest, reads, keeps⟩
  have aftermath : Effect.carryOut space.files
      (first.map .report ++ saves.map (fun save => .save save.1 save.2) ++ last.map .report) =
        ⟨.ok (), later, first ++ last⟩ := by
    have told := Effect.carryOut_reports later last []
    rw [List.append_nil] at told
    rw [here, List.append_assoc, Effect.carryOut_reports, rest, told]
    simp [Effect.carryOut]
  have ending := enacts.ending
  have left := enacts.files
  have heard := enacts.heard
  rw [aftermath] at ending left heard
  refine ⟨((executor.take next).perform space).2, Prod.ext ending rfl, heard, ?_⟩
  rw [left]
  exact ⟨admitted, reads, keeps⟩

/-- A step that finds the reporter somewhere goes on from there. -/
theorem Does.isComplete (does : executor.Does files next first saves last)
    (resumed : loadReporter executor.reporter files progressFile = .ok reporter)
    (admits : files.Admits paths) (progressMember : progressFile ∈ paths)
    (members : ∀ save ∈ saves, save.1 ∈ paths)
    (distinct : (saves.map fun save => Route.placeOf save.1).Nodup) :
    (executor.step files ⟨progressFile, next⟩).IsComplete files progressFile paths reporter
      (first ++ last) saves := by
  rcases step_of_resumed resumed next with ⟨looked, stepped⟩
  have here : (((executor.workspace files).look looked).withReporter reporter).files = files := rfl
  rcases does.perform admits members distinct here rfl with
    ⟨between, taken, heard, admitted, reads, keeps⟩
  rcases exists_leaveCursor admitted progressMember with
    ⟨after, left, silent, laterAdmits, kept, keepsLater⟩
  have whole := heard.trans silent
  have shape : executor.step files ⟨progressFile, next⟩ = executor.outcomeOf (.ok (), after) := by
    rw [stepped, Procedure.perform_bind, taken]
    simp only [left]
  rw [shape]
  rw [List.append_nil] at whole
  constructor
  case ending => rfl
  case told =>
    have looks := (executor.workspace files).hasHeard_look looked
    have calls := whole.calls.trans (congrArg (· ++ (first ++ last)) looks.calls)
    exact calls
  case lines => exact whole.lines
  case admits => exact laterAdmits
  case kept =>
    intro cursor same
    apply kept
    rw [heard.reporter]
    exact same
  case saved =>
    intro save inSaves elsewhere
    exact (keepsLater save.1 (members save inSaves) elsewhere).reads save.2 (reads save inSaves)
  case keeps =>
    intro path inPaths notProgress notSaved
    exact (keeps path inPaths notSaved).trans (keepsLater path inPaths notProgress)

end Completion

end Executor

/-- A host program between two steps. -/
structure Hosting where
  files : FileStore
  lines : List String
  /-- The error of the step that ended the execution, if one did. -/
  ending : Except ExecutorError Unit

namespace Hosting

/-- Before the first step. -/
def start (files : FileStore) : Hosting := ⟨files, [], .ok ()⟩

/-- Writes a file for the next step, unless an earlier one went wrong. -/
def write (path text : String) (hosting : Hosting) : Hosting :=
  match hosting.ending with
  | .error _ => hosting
  | .ok () =>
    match hosting.files.write? path text with
    | some files => { hosting with files := files }
    | none => { hosting with ending := .error (.unwritable path) }

/-- The steps so far have told these calls, like one reporter that was new at the start, and the
next step goes on from there. -/
structure Stands (executor : Executor) (format : TraceFormat) (progressFile : String)
    (paths : List String) (calls : List ReporterCall) (hosting : Hosting) : Prop where
  ending : hosting.ending = .ok ()
  lines : hosting.lines = (executor.reporter.reportAll calls).2
  admits : hosting.files.Admits paths
  continues : (executor.reporter.reportAll calls).1.Continues format
  kept : hosting.files.holds progressFile = false ∧ calls = [] ∨
    ∀ cursor, (executor.reporter.reportAll calls).1.cursor? = some cursor →
      hosting.files.read? progressFile = some cursor.encode

section Steps

variable {executor : Executor} {format : TraceFormat} {progressFile : String}
  {paths : List String} {calls : List ReporterCall} {hosting : Hosting}

theorem stands_start {files : FileStore} (fresh : executor.reporter = .create format)
    (absent : files.holds progressFile = false) (admits : files.Admits paths) :
    Stands executor format progressFile paths [] (start files) where
  ending := rfl
  lines := rfl
  admits := admits
  continues := by
    rw [fresh]
    exact Reporter.continues_create format
  kept := Or.inl ⟨absent, rfl⟩

/-- The next step goes on with the reporter of the steps so far. -/
theorem Stands.resume (stands : Stands executor format progressFile paths calls hosting)
    (fresh : executor.reporter = .create format) (member : progressFile ∈ paths) :
    Executor.loadReporter executor.reporter hosting.files progressFile =
      .ok (executor.reporter.reportAll calls).1 := by
  rw [Executor.loadReporter]
  rcases stands.kept with ⟨absent, rfl⟩ | kept
  · rw [absent]
    rfl
  · have continues := stands.continues
    cases reporter : (executor.reporter.reportAll calls).1.cursor? with
    | some cursor =>
        have reads := kept cursor reporter
        rw [FileStore.holds_of_read? reads, FileStore.read, reads]
        have restored := Reporter.restore_kept continues reporter
        rw [← fresh] at restored
        rw [← restored]
        rfl
    | none =>
        -- A reporter without a cursor does not care what it is restored from.
        have console : executor.reporter = .console ∧
            (executor.reporter.reportAll calls).1 = .console := by
          cases format with
          | text => exact ⟨fresh, continues⟩
          | xml =>
              rcases continues with ⟨cursor, structured, -⟩
              rw [structured] at reporter
              cases reporter
        cases present : hosting.files.holds progressFile with
        | false =>
            rw [console.2, ← console.1]
            rfl
        | true =>
            rcases stands.admits.read?_of_holds member present with ⟨text, reads⟩
            have restored : executor.reporter.restore (Cursor.decode text) = .console := by
              rw [console.1]
              rfl
            rw [FileStore.read, reads, console.2, ← restored]
            rfl

/-- What comes of a file that the host writes between two steps. -/
theorem Stands.write (stands : Stands executor format progressFile paths calls hosting)
    (begun : calls ≠ []) (progressMember : progressFile ∈ paths) {path : String}
    (member : path ∈ paths) (elsewhere : Route.placeOf path ≠ Route.placeOf progressFile)
    (text : String) :
    Stands executor format progressFile paths calls (hosting.write path text) ∧
      (hosting.write path text).files.read? path = some text ∧
      ∀ other ∈ paths, Route.placeOf other ≠ Route.placeOf path →
        FileStore.Keeps hosting.files (hosting.write path text).files other := by
  rcases stands.admits.write? member text with ⟨later, written⟩
  have shape : hosting.write path text = { hosting with files := later } := by
    rw [Hosting.write, stands.ending, written]
  have keeps : ∀ other ∈ paths, Route.placeOf other ≠ Route.placeOf path →
      FileStore.Keeps hosting.files later other := by
    intro other inPaths notPath
    exact stands.admits.keeps member written inPaths notPath
  rw [shape]
  refine ⟨⟨stands.ending, stands.lines, stands.admits.after member written, stands.continues, ?_⟩,
    FileStore.read?_write written, keeps⟩
  right
  intro cursor same
  rcases stands.kept with ⟨-, none⟩ | kept
  · exact absurd none begun
  · exact (keeps progressFile progressMember elsewhere.symm).reads _ (kept cursor same)

theorem write_of_error {error : ExecutorError} (failed : hosting.ending = .error error)
    (path text : String) : hosting.write path text = hosting := by
  rw [Hosting.write, failed]

variable [PatternLanguage]

/-- Takes a step, unless an earlier one went wrong. -/
def step (executor : Executor) (progressFile : String) (hosting : Hosting) (step : Step) :
    Hosting :=
  match hosting.ending with
  | .error _ => hosting
  | .ok () =>
    let outcome := executor.step hosting.files ⟨progressFile, step⟩
    ⟨outcome.files, hosting.lines ++ outcome.lines, outcome.ending⟩

/-- What comes of a step: the calls are told, the files are saved, and nothing else changes but the
file of the cursor. -/
theorem Stands.step (stands : Stands executor format progressFile paths calls hosting)
    (fresh : executor.reporter = .create format) (member : progressFile ∈ paths)
    {next : Step} {first last : List ReporterCall} {saves : List (String × String)}
    (does : executor.Does hosting.files next first saves last)
    (members : ∀ save ∈ saves, save.1 ∈ paths)
    (distinct : (saves.map fun save => Route.placeOf save.1).Nodup)
    (clean : ∀ call ∈ first ++ last, call.IsClean) :
    Stands executor format progressFile paths (calls ++ (first ++ last))
        (hosting.step executor progressFile next) ∧
      (∀ save ∈ saves, Route.placeOf save.1 ≠ Route.placeOf progressFile →
        (hosting.step executor progressFile next).files.read? save.1 = some save.2) ∧
      ∀ path ∈ paths, Route.placeOf path ≠ Route.placeOf progressFile →
        (∀ save ∈ saves, Route.placeOf path ≠ Route.placeOf save.1) →
          FileStore.Keeps hosting.files (hosting.step executor progressFile next).files path := by
  have complete := does.isComplete (stands.resume fresh member) stands.admits member members
    distinct
  have shape : hosting.step executor progressFile next =
      let outcome := executor.step hosting.files ⟨progressFile, next⟩
      ⟨outcome.files, hosting.lines ++ outcome.lines, outcome.ending⟩ := by
    rw [Hosting.step, stands.ending]
  have told := Reporter.reportAll_append executor.reporter calls (first ++ last)
  rw [shape]
  refine ⟨⟨complete.ending, ?_, complete.admits, ?_, Or.inr ?_⟩, complete.saved, complete.keeps⟩
  · rw [told, ← stands.lines, ← complete.lines]
  · rw [told]
    exact stands.continues.reportAll clean
  · rw [told]
    exact complete.kept

end Steps

section Refused

variable [PatternLanguage] {executor : Executor} {progressFile : String} {error : ExecutorError}

/-- Once a step went wrong, nothing happens any more. -/
theorem step_of_error {hosting : Hosting} (failed : hosting.ending = .error error) (next : Step) :
    hosting.step executor progressFile next = hosting := by
  rw [Hosting.step, failed]

/-- If the selection is wrong, the first step says so and does nothing else. -/
theorem step_list_refused {files : FileStore}
    (refused : selectRuns executor.suites executor.configuration = .error error)
    (absent : files.holds progressFile = false) (directory : String) :
    (start files).step executor progressFile (.list directory) = ⟨files, [], .error error⟩ := by
  have resumed : Executor.loadReporter executor.reporter files progressFile =
      .ok executor.reporter := by
    rw [Executor.loadReporter, absent]
    rfl
  rcases Executor.step_of_resumed resumed (.list directory) with ⟨looked, stepped⟩
  rw [Hosting.step, start]
  simp only [stepped, Executor.take, Executor.listRuns, refused, Procedure.perform_bind,
    Procedure.perform_liftM]
  rfl

end Refused

section Agreement

variable [PatternLanguage]

/-- Nobody can tell the steps from an execution in one process: the progress is the same, and so are
the ending and the report. If the selection is right, there is a report, and it is that of the
selected runs. -/
structure AgreesWith (executor : Executor) (files : FileStore) (hosting : Hosting) : Prop where
  lines : hosting.lines = (executor.run files).lines
  ending : hosting.ending = (executor.run files).ending
  report : hosting.files.read? executor.configuration.reportFile =
    (executor.run files).files.read? executor.configuration.reportFile
  success : ∀ runs, selectRuns executor.suites executor.configuration = .ok runs →
    hosting.ending = .ok () ∧
      hosting.files.read? executor.configuration.reportFile =
        some (executor.report (PlannedRun.allResults runs))

variable {executor : Executor} {files : FileStore}

theorem agreesWith_of_refused {error : ExecutorError}
    (refused : selectRuns executor.suites executor.configuration = .error error) :
    AgreesWith executor files ⟨files, [], .error error⟩ := by
  have ran := Executor.run_of_refused refused files
  constructor
  case lines => rw [ran]
  case ending => rw [ran]
  case report => rw [ran]
  case success =>
    intro runs selected
    rw [refused] at selected
    cases selected

/-- Steps agree with one process once all calls are told and the report is there. -/
theorem Stands.agreesWith {format : TraceFormat} {progressFile : String} {paths : List String}
    {hosting : Hosting} {runs : List PlannedRun}
    (selected : selectRuns executor.suites executor.configuration = .ok runs)
    (stands : Stands executor format progressFile paths
      (.startSuite executor.name :: PlannedRun.allCalls executor.name runs ++
        [executor.endCall (PlannedRun.allResults runs)]) hosting)
    (reads : hosting.files.read? executor.configuration.reportFile =
      some (executor.report (PlannedRun.allResults runs)))
    (admits : files.Admits paths) (member : executor.configuration.reportFile ∈ paths) :
    AgreesWith executor files hosting := by
  rcases admits.write? member (executor.report (PlannedRun.allResults runs)) with ⟨later, written⟩
  rcases Executor.run_of_written selected written with ⟨after, ending⟩
  refine ⟨?_, ?_, ?_, ?_⟩
  · rw [Executor.lines_run, Executor.calls_eq selected]
    exact stands.lines
  · rw [ending, stands.ending]
  · rw [reads, after, FileStore.read?_write written]
  · intro others same
    rw [selected] at same
    cases same
    exact ⟨stands.ending, reads⟩

end Agreement

end Hosting

end Microbench
