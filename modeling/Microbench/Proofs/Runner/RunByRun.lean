import Mathlib.Data.List.Basic
import Microbench.Proofs.Runner.Steps

/-!
# An execution spread over its runs

A host program can leave each run of an execution to a process of its own: the first step describes
the runs, one step measures each of them, and the last step stores the results. The host only has
to put the samples of the runs that did not fail into one file. Nobody can tell from the progress or
from the report that the execution was spread.
-/

namespace Microbench

/-- A host program that leaves each run to one process, and the files that it uses. -/
structure RunHost where
  /-- The file of the reporter's cursor. -/
  progressFile : String
  directory : String
  /-- The file of a run's samples, by the file of its descriptor. -/
  resultFile : String → String
  resultsFile : String

namespace RunHost

/-- The lines about the runs whose samples are there. -/
def lines [WorkingDirectory] (host : RunHost) (files : FileStore) (runFiles : List String) :
    List String :=
  runFiles.filterMap fun runFile =>
    (files.read? (host.resultFile runFile)).map fun text => runFile ++ ": " ++ text

/-- The lines about runs whose samples were left are the lines of a file of results. -/
theorem lines_described [WorkingDirectory] {host : RunHost} {files : FileStore}
    {described : List (String × PlannedRun)}
    (left : ∀ entry ∈ described, files.Has (host.resultFile entry.1) entry.2.samplesText?) :
    host.lines files (described.map Prod.fst) = PlannedRun.resultLines described := by
  rw [lines, PlannedRun.resultLines, List.filterMap_map]
  apply List.filterMap_congr
  intro entry member
  change (files.read? (host.resultFile entry.1)).map _ = entry.2.samplesText?.map _
  rw [FileStore.read?_of_has (left entry member)]

variable [PatternLanguage]

/-- The files that the steps write. -/
def paths (host : RunHost) (executor : Executor) : List String :=
  let runFiles := executor.runFiles host.directory
  executor.configuration.reportFile :: host.progressFile :: host.resultsFile :: runFiles ++
    runFiles.map host.resultFile

theorem mem_paths {host : RunHost} {executor : Executor} {entry : String × PlannedRun}
    (member : entry ∈ executor.described host.directory) :
    entry.1 ∈ host.paths executor ∧ host.resultFile entry.1 ∈ host.paths executor := by
  have runFile : entry.1 ∈ executor.runFiles host.directory := List.mem_map_of_mem member
  have resultFile := List.mem_map_of_mem runFile (f := host.resultFile)
  simp [paths, runFile, resultFile]

variable [WorkingDirectory]

/-- One step for each run. -/
def measure (host : RunHost) (executor : Executor) (hosting : Hosting) (runFiles : List String) :
    Hosting :=
  runFiles.foldl (fun hosting runFile =>
    hosting.step executor host.progressFile (.benchmark runFile (host.resultFile runFile))) hosting

/-- All steps of an execution: the runs are described and measured one after the other, then the
results are stored. -/
def execute (host : RunHost) (executor : Executor) (files : FileStore) : Hosting :=
  let runFiles := executor.runFiles host.directory
  let listed := (Hosting.start files).step executor host.progressFile (.list host.directory)
  let measured := host.measure executor listed runFiles
  let written := measured.write host.resultsFile (streamText (host.lines measured.files runFiles))
  written.step executor host.progressFile (.storeResults host.resultsFile)

/-- The host can carry the execution out: its files are different ones, and there are no samples of
an earlier execution. -/
structure CanHost (host : RunHost) (executor : Executor) (files : FileStore) : Prop
    extends executor.CanSpread files host.progressFile host.directory (host.paths executor) where
  /-- There are no samples yet. -/
  vacant : ∀ runFile ∈ executor.runFiles host.directory, files.IsVacant (host.resultFile runFile)
  /-- The files are different ones. -/
  distinct : ((host.progressFile :: host.resultsFile :: executor.runFiles host.directory ++
    (executor.runFiles host.directory).map host.resultFile).map Route.placeOf).Nodup

/-- What the steps of some runs need, while the host is at work. -/
structure Ready (host : RunHost) (executor : Executor) (paths : List String)
    (described : List (String × PlannedRun)) (files : FileStore) : Prop where
  loaded : ∀ entry ∈ described, files.read? entry.1 = some entry.2.descriptor.text
  vacant : ∀ entry ∈ described, files.IsVacant (host.resultFile entry.1)
  selected : ∀ entry ∈ described, entry.2 ∈ executor.runs
  noBreaks : ∀ entry ∈ described, Text.HasNoBreaks entry.2.name
  members : ∀ entry ∈ described, entry.1 ∈ paths ∧ host.resultFile entry.1 ∈ paths
  offProgress : ∀ entry ∈ described, Route.placeOf entry.1 ≠ Route.placeOf host.progressFile ∧
    Route.placeOf (host.resultFile entry.1) ≠ Route.placeOf host.progressFile
  offResults : ∀ entry ∈ described, ∀ other ∈ described,
    Route.placeOf entry.1 ≠ Route.placeOf (host.resultFile other.1)
  distinct : (described.map fun entry => Route.placeOf (host.resultFile entry.1)).Nodup

section Runs

variable {host : RunHost} {executor : Executor} {format : TraceFormat} {paths : List String}
  {calls : List ReporterCall} {hosting : Hosting}

/-- One step measures one run, and leaves the others as they were. -/
theorem step_benchmark (fresh : executor.reporter = .create format)
    (names : (executor.benchmarks.map PlannedBenchmark.qualifiedName).Nodup)
    (member : host.progressFile ∈ paths)
    (stands : hosting.Stands executor format host.progressFile paths calls)
    {entry : String × PlannedRun} {described : List (String × PlannedRun)}
    (ready : host.Ready executor paths (entry :: described) hosting.files) :
    let next := hosting.step executor host.progressFile
      (.benchmark entry.1 (host.resultFile entry.1))
    next.Stands executor format host.progressFile paths
        (calls ++ entry.2.calls executor.name entry.2.execute) ∧
      next.files.Has (host.resultFile entry.1) entry.2.samplesText? ∧
      ∀ path ∈ paths, Route.placeOf path ≠ Route.placeOf host.progressFile →
        Route.placeOf path ≠ Route.placeOf (host.resultFile entry.1) →
          FileStore.Keeps hosting.files next.files path := by
  intro next
  have own : entry ∈ entry :: described := by simp
  have loaded := Executor.loadRun_described names (ready.selected entry own)
    (ready.loaded entry own)
  have does := Executor.does_benchmark loaded (host.resultFile entry.1)
  have clean := PlannedRun.isClean_calls (ready.noBreaks entry own) executor.name
  rw [PlannedRun.calls_eq] at clean ⊢
  cases samples : entry.2.samplesText? with
  | none =>
      rw [samples, Option.map_none, Option.toList_none] at does
      rcases stands.step fresh member does (by simp) (by simp) clean with ⟨standsNext, -, keeps⟩
      refine ⟨standsNext, ?_, ?_⟩
      · have kept := keeps (host.resultFile entry.1) (ready.members entry own).2
          (ready.offProgress entry own).2 (by simp)
        exact kept.vacant (ready.vacant entry own)
      · intro path inPaths notProgress _
        exact keeps path inPaths notProgress (by simp)
  | some text =>
      rw [samples, Option.map_some, Option.toList_some] at does
      rcases stands.step fresh member does (by simp [(ready.members entry own).2]) (by simp)
        clean with ⟨standsNext, reads, keeps⟩
      refine ⟨standsNext, ?_, ?_⟩
      · exact reads (host.resultFile entry.1, text) (by simp) (ready.offProgress entry own).2
      · intro path inPaths notProgress notResult
        exact keeps path inPaths notProgress (by simpa using notResult)

/-- After a step for a run, the others can still be measured. -/
theorem Ready.next {entry : String × PlannedRun} {described : List (String × PlannedRun)}
    {before after : FileStore} (ready : host.Ready executor paths (entry :: described) before)
    (keeps : ∀ path ∈ paths, Route.placeOf path ≠ Route.placeOf host.progressFile →
      Route.placeOf path ≠ Route.placeOf (host.resultFile entry.1) →
        FileStore.Keeps before after path) :
    host.Ready executor paths described after := by
  have others : ∀ other ∈ described, other ∈ entry :: described := by
    intro other member
    exact List.mem_cons_of_mem entry member
  have distinct := ready.distinct
  rw [List.map_cons, List.nodup_cons] at distinct
  constructor
  case loaded =>
    intro other member
    have kept := keeps other.1 (ready.members other (others other member)).1
      (ready.offProgress other (others other member)).1
      (ready.offResults other (others other member) entry (by simp))
    exact kept.reads _ (ready.loaded other (others other member))
  case vacant =>
    intro other member
    have elsewhere : Route.placeOf (host.resultFile other.1) ≠
        Route.placeOf (host.resultFile entry.1) := by
      intro same
      apply distinct.1
      rw [← same]
      exact List.mem_map_of_mem member
    have kept := keeps (host.resultFile other.1) (ready.members other (others other member)).2
      (ready.offProgress other (others other member)).2 elsewhere
    exact kept.vacant (ready.vacant other (others other member))
  case selected => exact fun other member => ready.selected other (others other member)
  case noBreaks => exact fun other member => ready.noBreaks other (others other member)
  case members => exact fun other member => ready.members other (others other member)
  case offProgress => exact fun other member => ready.offProgress other (others other member)
  case offResults =>
    intro first inFirst second inSecond
    exact ready.offResults first (others first inFirst) second (others second inSecond)
  case distinct => exact distinct.2

/-- The steps of the runs tell what the runs tell one after the other, and leave the samples of
those that do not fail. -/
theorem measure_stands (fresh : executor.reporter = .create format)
    (names : (executor.benchmarks.map PlannedBenchmark.qualifiedName).Nodup)
    (member : host.progressFile ∈ paths) {described : List (String × PlannedRun)}
    (stands : hosting.Stands executor format host.progressFile paths calls)
    (ready : host.Ready executor paths described hosting.files) :
    let measured := host.measure executor hosting (described.map Prod.fst)
    measured.Stands executor format host.progressFile paths
        (calls ++ PlannedRun.allCalls executor.name (described.map Prod.snd)) ∧
      (∀ entry ∈ described, measured.files.Has (host.resultFile entry.1) entry.2.samplesText?) ∧
      ∀ path ∈ paths, Route.placeOf path ≠ Route.placeOf host.progressFile →
        (∀ entry ∈ described, Route.placeOf path ≠ Route.placeOf (host.resultFile entry.1)) →
          FileStore.Keeps hosting.files measured.files path := by
  intro measured
  induction described generalizing hosting calls with
  | nil =>
      refine ⟨?_, by simp, fun path _ _ _ => .refl hosting.files path⟩
      rw [List.map_nil, PlannedRun.allCalls, List.flatMap_nil, List.append_nil]
      exact stands
  | cons entry described ih =>
      rcases step_benchmark fresh names member stands ready with ⟨standsNext, has, keeps⟩
      have readyNext := ready.next keeps
      rcases ih standsNext readyNext with ⟨standsLater, hasLater, keepsLater⟩
      have own : entry ∈ entry :: described := by simp
      have others : ∀ other ∈ described, Route.placeOf (host.resultFile entry.1) ≠
          Route.placeOf (host.resultFile other.1) := by
        have distinct := ready.distinct
        rw [List.map_cons, List.nodup_cons] at distinct
        intro other inDescribed same
        apply distinct.1
        rw [same]
        exact List.mem_map_of_mem inDescribed
      have kept := keepsLater (host.resultFile entry.1) (ready.members entry own).2
        (ready.offProgress entry own).2 others
      refine ⟨?_, ?_, ?_⟩
      · rw [List.map_cons, PlannedRun.allCalls, List.flatMap_cons, ← List.append_assoc]
        exact standsLater
      · intro other inAll
        rcases List.mem_cons.mp inAll with rfl | later
        · exact kept.has has
        · exact hasLater other later
      · intro path inPaths notProgress notResults
        have first := keeps path inPaths notProgress (notResults entry own)
        have rest := keepsLater path inPaths notProgress fun other inDescribed =>
          notResults other (List.mem_cons_of_mem entry inDescribed)
        exact first.trans rest

end Runs

section Hosts

variable {host : RunHost} {executor : Executor} {files : FileStore}

theorem CanHost.progress_mem (_canHost : host.CanHost executor files) :
    host.progressFile ∈ host.paths executor := by
  simp [paths]

/-- Runs, their descriptors and their samples are in different files, and none of these is the file
of the cursor or of all samples. -/
theorem CanHost.places (canHost : host.CanHost executor files) :
    let described := executor.described host.directory
    (∀ entry ∈ described, Route.placeOf entry.1 ≠ Route.placeOf host.progressFile ∧
      Route.placeOf (host.resultFile entry.1) ≠ Route.placeOf host.progressFile) ∧
    (∀ entry ∈ described, Route.placeOf entry.1 ≠ Route.placeOf host.resultsFile) ∧
    Route.placeOf host.resultsFile ≠ Route.placeOf host.progressFile ∧
    (described.map fun entry => Route.placeOf entry.1).Nodup ∧
    (described.map fun entry => Route.placeOf (host.resultFile entry.1)).Nodup ∧
    ∀ entry ∈ described, ∀ other ∈ described,
      Route.placeOf entry.1 ≠ Route.placeOf (host.resultFile other.1) := by
  intro described
  have distinct := canHost.distinct
  simp only [Executor.runFiles, List.cons_append, List.map_cons, List.map_append, List.map_map,
    List.nodup_cons, List.nodup_append] at distinct
  rcases distinct with ⟨notProgress, notResults, runFiles, resultFiles, apart⟩
  have inRunFiles {entry : String × PlannedRun} (member : entry ∈ described) :
      Route.placeOf entry.1 ∈ described.map (Route.placeOf ∘ Prod.fst) :=
    List.mem_map_of_mem member
  have inResultFiles {entry : String × PlannedRun} (member : entry ∈ described) :
      Route.placeOf (host.resultFile entry.1) ∈
        described.map (Route.placeOf ∘ host.resultFile ∘ Prod.fst) :=
    List.mem_map_of_mem member
  refine ⟨?_, ?_, ?_, runFiles, resultFiles, ?_⟩
  · intro entry member
    constructor
    · intro same
      apply notProgress
      rw [← same]
      exact List.mem_cons_of_mem _ (List.mem_append_left _ (inRunFiles member))
    · intro same
      apply notProgress
      rw [← same]
      exact List.mem_cons_of_mem _ (List.mem_append_right _ (inResultFiles member))
  · intro entry member same
    apply notResults
    rw [← same]
    exact List.mem_append_left _ (inRunFiles member)
  · intro same
    apply notProgress
    rw [same]
    exact List.mem_cons_self
  · intro entry member other otherMember
    exact apart _ (inRunFiles member) _ (inResultFiles otherMember)

/-- The first step starts the execution and leaves what the steps of the runs need. -/
theorem CanHost.list (canHost : host.CanHost executor files) {format : TraceFormat}
    (fresh : executor.reporter = .create format) {runs : List PlannedRun}
    (selected : selectRuns executor.suites executor.configuration = .ok runs) :
    let listed := (Hosting.start files).step executor host.progressFile (.list host.directory)
    listed.Stands executor format host.progressFile (host.paths executor)
        [.startSuite executor.name] ∧
      host.Ready executor (host.paths executor) (executor.described host.directory)
        listed.files := by
  intro listed
  rcases canHost.places with ⟨offProgress, -, -, runFiles, resultFiles, apart⟩
  have members : ∀ entry ∈ executor.described host.directory, entry.1 ∈ host.paths executor ∧
      Route.placeOf entry.1 ≠ Route.placeOf host.progressFile := by
    intro entry member
    exact ⟨(mem_paths member).1, (offProgress entry member).1⟩
  rcases Hosting.stands_list canHost.toCanSpread fresh selected canHost.progress_mem members
    runFiles with ⟨stands, loaded, keeps⟩
  refine ⟨stands, ?_⟩
  constructor
  case loaded => exact loaded
  case vacant =>
    intro entry member
    have kept := keeps (host.resultFile entry.1) (mem_paths member).2 (offProgress entry member).2
      fun other otherMember => (apart other otherMember entry member).symm
    exact kept.vacant (canHost.vacant entry.1 (List.mem_map_of_mem member))
  case selected => exact fun entry member => Executor.mem_runs_of_described member
  case noBreaks =>
    exact fun entry member => canHost.noBreaks entry.2 (Executor.mem_runs_of_described member)
  case members => exact fun entry member => mem_paths member
  case offProgress => exact offProgress
  case offResults => exact apart
  case distinct => exact resultFiles

/-- If the selection is right, the steps tell and report what one process tells and reports. -/
theorem CanHost.agreesWith_of_selected (canHost : host.CanHost executor files)
    {format : TraceFormat} (fresh : executor.reporter = .create format)
    (unused : executor.results = []) {runs : List PlannedRun}
    (selected : selectRuns executor.suites executor.configuration = .ok runs) :
    (host.execute executor files).AgreesWith executor files := by
  rcases canHost.places with ⟨offProgress, offResults, resultsOffProgress, -, -, apart⟩
  rcases canHost.list fresh selected with ⟨standsListed, ready⟩
  rcases measure_stands fresh canHost.names canHost.progress_mem standsListed ready with
    ⟨standsMeasured, left, keeps⟩
  rw [Executor.map_snd_described] at standsMeasured
  have lines := lines_described left
  have whole : host.execute executor files =
      ((host.measure executor ((Hosting.start files).step executor host.progressFile
        (.list host.directory)) (executor.runFiles host.directory)).write host.resultsFile
          (streamText (PlannedRun.resultLines (executor.described host.directory)))).step
            executor host.progressFile (.storeResults host.resultsFile) := by
    rw [execute, ← lines]
    rfl
  rw [whole]
  apply standsMeasured.agreesWith_of_store canHost.toCanSpread fresh selected
    canHost.progress_mem unused
  case resultsMember => simp [paths]
  case reportMember => simp [paths]
  case elsewhere => exact resultsOffProgress
  case members =>
    intro entry member
    exact ⟨(mem_paths member).1, offResults entry member⟩
  case left =>
    intro entry member
    have kept := keeps entry.1 (mem_paths member).1 (offProgress entry member).1
      (apart entry member)
    exact kept.reads _ (ready.loaded entry member)

/-- An execution that is spread over its runs cannot be told from an execution in one process,
whatever fails in the runs. -/
theorem execute_agrees {format : TraceFormat} (fresh : executor.reporter = .create format)
    (unused : executor.results = []) (canHost : host.CanHost executor files) :
    (host.execute executor files).AgreesWith executor files := by
  cases selected : selectRuns executor.suites executor.configuration with
  | error error =>
      have none : executor.described host.directory = [] := by
        rw [Executor.described, Executor.runs, selected]
        rfl
      have whole : host.execute executor files = ⟨files, [], .error error⟩ := by
        rw [execute, Executor.runFiles, none]
        simp only [List.map_nil, measure, List.foldl_nil,
          Hosting.step_list_refused selected canHost.absent host.directory]
        rw [Hosting.write_of_error rfl, Hosting.step_of_error rfl]
      rw [whole]
      exact Hosting.agreesWith_of_refused selected
  | ok runs => exact canHost.agreesWith_of_selected fresh unused selected

end Hosts

end RunHost

namespace Demonstration

def runHost : RunHost := ⟨"cursor", "", (· ++ ".samples"), "results"⟩

theorem runFiles_executor :
    executor.runFiles "" = ["demo.Failing_steady_0.json", "demo.Failing_exhausted_0.json"] := by
  rw [Executor.runFiles_here]
  decide

theorem canHost_runHost : runHost.CanHost executor .empty := by
  have paths : runHost.paths executor =
      ["report.json", "cursor", "results", "demo.Failing_steady_0.json",
        "demo.Failing_exhausted_0.json", "demo.Failing_steady_0.json.samples",
        "demo.Failing_exhausted_0.json.samples"] := by
    rw [RunHost.paths]
    simp only [runHost, runFiles_executor]
    rfl
  have fileNames : ∀ path ∈ runHost.paths executor, Route.IsFileName path := by
    rw [paths]
    simp only [List.forall_mem_cons, List.not_mem_nil, false_implies, implies_true, and_true]
    refine ⟨?_, ?_, ?_, ?_, ?_, ?_, ?_⟩ <;>
      exact ⟨by simp [Route.isName, Route.nameLimit]; decide, by decide, by decide⟩
  have place (path : String) (member : path ∈ runHost.paths executor) :
      Route.placeOf path = path :=
    placeOf_root (fileNames path member)
  rw [paths] at place
  have noPathBreaks : ∀ runFile ∈ executor.runFiles runHost.directory,
      Text.HasNoBreaks runFile := by
    change ∀ runFile ∈ executor.runFiles "", Text.HasNoBreaks runFile
    rw [runFiles_executor]
    decide
  constructor
  case toCanSpread =>
    refine Executor.canSpread_empty fileNames ?_ ?_ ?_ ?_ ?_ noPathBreaks ?_
    · simp [RunHost.paths]
    · simp [RunHost.paths]
    · decide
    · decide
    · decide
    · decide
  case vacant =>
    intro runFile member
    change runFile ∈ executor.runFiles "" at member
    rw [runFiles_executor] at member
    apply FileStore.isVacant_empty
    apply fileNames
    rw [paths]
    rcases List.mem_cons.mp member with rfl | member
    · decide
    · rw [List.mem_singleton.mp member]
      decide
  case distinct =>
    change ((runHost.progressFile :: runHost.resultsFile :: executor.runFiles "" ++
      (executor.runFiles "").map runHost.resultFile).map Route.placeOf).Nodup
    rw [runFiles_executor]
    -- These are all the paths but that of the report, and each of them is its own place.
    have places := List.map_congr_left fun path member =>
      place path (List.mem_cons_of_mem "report.json" member)
    change (List.map Route.placeOf ["cursor", "results", "demo.Failing_steady_0.json",
      "demo.Failing_exhausted_0.json", "demo.Failing_steady_0.json.samples",
      "demo.Failing_exhausted_0.json.samples"]).Nodup
    rw [places]
    decide

/-- The demonstration can be spread over its runs. -/
theorem execute_agrees_executor :
    executor.reporter = .create .xml ∧ executor.results = [] ∧ runHost.CanHost executor .empty ∧
      (runHost.execute executor .empty).AgreesWith executor .empty :=
  ⟨rfl, rfl, canHost_runHost,
    @RunHost.execute_agrees _ _ runHost executor .empty .xml rfl rfl canHost_runHost⟩

end Demonstration

end Microbench
