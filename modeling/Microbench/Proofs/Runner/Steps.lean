import Microbench.Proofs.Binary64.PlainText
import Microbench.Proofs.Measurement.Samples
import Microbench.Proofs.Runner.Descriptor
import Microbench.Proofs.Runner.Hosting
import Microbench.Proofs.Runner.Samples

/-!
# What the steps do

A step that is given what earlier steps have left works on the very run that it is about, and on the
numbers that were measured. So each kind of step does its part of what an execution in one process
would do.
-/

namespace Microbench

namespace PlannedBenchmark

theorem planned_of_mem_runs {configuration : RunnerConfiguration} {planned : PlannedBenchmark}
    {runs : List PlannedRun} (expanded : planned.runs configuration = .ok runs) {run : PlannedRun}
    (member : run ∈ runs) : run.planned = planned := by
  rw [PlannedBenchmark.runs] at expanded
  split at expanded
  · cases expanded
  · cases expanded
    rw [List.mem_map] at member
    rcases member with ⟨parameters, -, rfl⟩
    rfl

/-- The runs of benchmarks are those of the first one and those of the others. -/
theorem allRuns_cons {configuration : RunnerConfiguration} {planned : PlannedBenchmark}
    {others : List PlannedBenchmark} {runs : List PlannedRun}
    (expanded : allRuns configuration (planned :: others) = .ok runs) :
    ∃ own later, planned.runs configuration = .ok own ∧
      allRuns configuration others = .ok later ∧ runs = own ++ later := by
  rw [allRuns] at expanded
  split at expanded
  · cases expanded
  · rename_i own expandedOwn
    cases expandedOthers : allRuns configuration others with
    | error error =>
        rw [expandedOthers] at expanded
        cases expanded
    | ok later =>
        rw [expandedOthers] at expanded
        cases expanded
        exact ⟨own, later, expandedOwn, rfl, rfl⟩

theorem planned_of_mem_allRuns {configuration : RunnerConfiguration}
    {selected : List PlannedBenchmark} {runs : List PlannedRun}
    (expanded : allRuns configuration selected = .ok runs) {run : PlannedRun}
    (member : run ∈ runs) : run.planned ∈ selected := by
  induction selected generalizing runs with
  | nil =>
      cases expanded
      cases member
  | cons planned selected ih =>
      rcases allRuns_cons expanded with ⟨own, later, expandedOwn, expandedLater, rfl⟩
      rcases List.mem_append.mp member with inOwn | inLater
      · rw [planned_of_mem_runs expandedOwn inOwn]
        exact List.mem_cons_self
      · exact List.mem_cons_of_mem planned (ih expandedLater inLater)

/-- Among benchmarks with different names, a benchmark is found by its name. -/
theorem find?_qualifiedName {selected : List PlannedBenchmark}
    (distinct : (selected.map qualifiedName).Nodup) {planned : PlannedBenchmark}
    (member : planned ∈ selected) :
    (selected.find? fun other => other.qualifiedName = planned.qualifiedName) = some planned := by
  induction selected with
  | nil => cases member
  | cons first selected ih =>
      rw [List.map_cons, List.nodup_cons] at distinct
      rcases List.mem_cons.mp member with rfl | later
      · rw [List.find?_cons_of_pos]
        simp
      · have different : first.qualifiedName ≠ planned.qualifiedName := by
          intro same
          apply distinct.1
          rw [same]
          exact List.mem_map_of_mem later
        rw [List.find?_cons_of_neg]
        · exact ih distinct.2 later
        · simpa using different

end PlannedBenchmark

namespace PlannedRun

theorem map_snd_withDescriptorNames (previous : String) (number : Nat) (runs : List PlannedRun) :
    (withDescriptorNames previous number runs).map Prod.snd = runs := by
  induction runs generalizing previous number with
  | nil => rfl
  | cons run runs ih => rw [withDescriptorNames, List.map_cons, ih]

/-- The text of the samples of a run, unless it failed. -/
def samplesText? (run : PlannedRun) : Option String :=
  run.execute.outcome.toOption.map Samples.text

/-- The call that ends a run. -/
def lastCall (name : String) (run : PlannedRun) : ReporterCall :=
  match run.execute.outcome with
  | .ok samples => run.successCall name samples
  | .error failure => run.failureCall name failure

theorem calls_eq (name : String) (run : PlannedRun) :
    run.calls name run.execute =
      (run.startCall name :: run.outputCalls name run.execute.lines) ++ [run.lastCall name] :=
  rfl

theorem isClean_calls {run : PlannedRun} (noBreaks : Text.HasNoBreaks run.name) (name : String) :
    ∀ call ∈ run.calls name run.execute, call.IsClean := by
  intro call member
  rw [calls_eq, List.mem_append, List.mem_cons, List.mem_singleton, outputCalls,
    List.mem_map] at member
  rcases member with (rfl | ⟨line, -, rfl⟩) | rfl
  · exact isClean_startCall noBreaks name
  · trivial
  · rw [lastCall]
    split
    · trivial
    · trivial

/-- The samples of a run that is to take some read back from their text. -/
theorem read_samplesText {run : PlannedRun} (iterations : run.settings.iterations ≠ 0)
    {samples : List Binary64} (outcome : run.execute.outcome = .ok samples) :
    samples ≠ [] ∧ Samples.read (Samples.text samples).toList = .ok samples := by
  rcases Execution.run_samples outcome with ⟨length, origin⟩
  have some : samples ≠ [] := by
    rintro rfl
    apply iterations
    rw [← UInt32.toNat_inj, ← length]
    rfl
  refine ⟨some, Samples.read_text some ?_⟩
  intro sample member
  rcases origin sample member with ⟨value, rfl⟩
  exact Binary64.read?_plain_ofFloat value

end PlannedRun

namespace Executor

section Effects

variable [WorkingDirectory]

/-- The descriptors are saved one after the other. -/
theorem enacts_describe (directory : String) (runs : List (String × PlannedRun))
    (space : Workspace) :
    (describe directory runs).Enacts space
      (runs.map fun entry => .save (joinPath directory entry.1) entry.2.descriptor.text) := by
  induction runs generalizing space with
  | nil => exact .done space
  | cons entry runs ih => exact .save_then fun files _ => ih _

/-- A number that was measured is left; if there is none, this is told and left. -/
theorem enacts_leave {α : Type} (executor : Executor) (run : PlannedRun) (text : α → String)
    (resultFile : String) (outcome : Except Failure α) (space : Workspace) :
    (executor.leave run text resultFile outcome).Enacts space
      (match outcome with
        | .ok value => [.save resultFile (text value)]
        | .error failure =>
          [.report (run.failureCall executor.name failure), .save resultFile nullText]) := by
  cases outcome with
  | ok value => exact .save resultFile (text value) space
  | error failure => exact .tell_then (.save resultFile nullText _)

/-- What is done with a count of invocations that is loaded is done in full. -/
theorem enacts_of_counted {files : FileStore} {cyclesFile : String} {cycles : UInt64}
    (counted : loadCycles files cyclesFile = .ok cycles) {space : Workspace}
    (here : space.files = files) {later : UInt64 → Procedure Unit} {effects : List Effect}
    (enacts : ∀ looked, (later cycles).Enacts (space.look looked) effects) :
    (fetchCycles cyclesFile >>= later).Enacts space effects := by
  rcases perform_fetchCycles cyclesFile space with ⟨looked, fetched⟩
  rw [here, counted] at fetched
  exact .after_silence fetched rfl (space.hasHeard_look looked) (enacts looked)

/-- So is what is done with samples that are loaded. -/
theorem enacts_of_sampled {files : FileStore} {samplesFile : String} {samples : List Binary64}
    (sampled : loadSamples files samplesFile = .ok samples) {space : Workspace}
    (here : space.files = files) {later : List Binary64 → Procedure Unit} {effects : List Effect}
    (enacts : (later samples).Enacts (space.look [samplesFile]) effects) :
    (fetchSamples samplesFile >>= later).Enacts space effects := by
  have fetched := perform_fetchSamples samplesFile space
  rw [here, sampled] at fetched
  exact .after_silence fetched rfl (space.hasHeard_look [samplesFile]) enacts

end Effects

variable [PatternLanguage]

/-- The benchmarks that an executor selects; none if its selection is wrong. -/
def benchmarks (executor : Executor) : List PlannedBenchmark :=
  (selectBenchmarks executor.suites executor.configuration).toOption.getD []

/-- The runs of an executor with the paths of their descriptors in a directory. -/
def described (executor : Executor) (directory : String) : List (String × PlannedRun) :=
  (PlannedRun.withDescriptorNames "" 0 executor.runs).map fun entry =>
    (joinPath directory entry.1, entry.2)

/-- The files of the descriptors of runs in a directory. -/
def runFiles (executor : Executor) (directory : String) : List String :=
  (executor.described directory).map Prod.fst

/-- Without a directory, descriptors are in the files of their names. -/
theorem runFiles_here (executor : Executor) :
    executor.runFiles "" = (PlannedRun.withDescriptorNames "" 0 executor.runs).map Prod.fst := by
  have here (file : String) : joinPath "" file = file := by simp [joinPath]
  simp [runFiles, described, here]

theorem runFiles_eq {executor : Executor} {runs : List PlannedRun}
    (selected : selectRuns executor.suites executor.configuration = .ok runs)
    (directory : String) :
    executor.runFiles directory =
      ((PlannedRun.withDescriptorNames "" 0 runs).map Prod.fst).map (joinPath directory) := by
  simp [runFiles, described, runs_eq selected]

theorem map_snd_described (executor : Executor) (directory : String) :
    (executor.described directory).map Prod.snd = executor.runs := by
  have second : (Prod.snd ∘ fun entry : String × PlannedRun =>
      (joinPath directory entry.1, entry.2)) = Prod.snd := rfl
  rw [described, List.map_map, second, PlannedRun.map_snd_withDescriptorNames]

theorem mem_runs_of_described {executor : Executor} {directory : String}
    {entry : String × PlannedRun} (member : entry ∈ executor.described directory) :
    entry.2 ∈ executor.runs := by
  rw [← executor.map_snd_described directory]
  exact List.mem_map_of_mem member

variable {executor : Executor} {files : FileStore} {run : PlannedRun}

theorem planned_mem_benchmarks (member : run ∈ executor.runs) :
    run.planned ∈ executor.benchmarks := by
  rw [runs, selectRuns] at member
  rw [benchmarks]
  cases selected : selectBenchmarks executor.suites executor.configuration with
  | error error =>
      rw [selected] at member
      cases member
  | ok planned =>
      rw [selected] at member
      cases expanded : PlannedBenchmark.allRuns executor.configuration planned with
      | error error =>
          simp only [expanded] at member
          cases member
      | ok runs =>
          simp only [expanded] at member
          exact PlannedBenchmark.planned_of_mem_allRuns expanded member

/-- A run is about the benchmark that its suite has at the run's index. -/
theorem benchmark_of_mem_runs (member : run ∈ executor.runs) :
    run.planned.suite.benchmarks[run.planned.index]? = some run.planned.benchmark := by
  have planned := planned_mem_benchmarks member
  rw [benchmarks, selectBenchmarks] at planned
  split at planned
  · cases planned
  · rw [Except.toOption, Option.getD_some, plan, List.mem_filter, List.mem_flatMap] at planned
    rcases planned with ⟨⟨suite, -, inSuite⟩, -⟩
    rw [PlannedBenchmark.ofSuite, List.mem_mapIdx] at inSuite
    rcases inSuite with ⟨index, bound, shape⟩
    rw [← shape]
    exact List.getElem?_eq_getElem bound

variable [WorkingDirectory]

/-- A descriptor is loaded as the run that it describes. -/
theorem loadRun_described (distinct : (executor.benchmarks.map (·.qualifiedName)).Nodup)
    (member : run ∈ executor.runs) {path : String}
    (reads : files.read? path = some run.descriptor.text) :
    executor.loadRun files path = .ok run := by
  have inBenchmarks := planned_mem_benchmarks member
  have found := PlannedBenchmark.find?_qualifiedName distinct inBenchmarks
  have sameName : run.descriptor.benchmark = run.planned.qualifiedName := rfl
  rw [benchmarks] at inBenchmarks found
  cases selected : selectBenchmarks executor.suites executor.configuration with
  | error error =>
      rw [selected] at inBenchmarks
      cases inBenchmarks
  | ok planned =>
      rw [selected, Except.toOption, Option.getD_some] at found
      simp only [loadRun, runOf, FileStore.read, reads, bind, Except.bind,
        RunDescriptor.ofText?_text, selected, sameName, found]
      rfl

/-- The first step starts the execution and saves the descriptors of all runs. -/
theorem does_list {runs : List PlannedRun}
    (selected : selectRuns executor.suites executor.configuration = .ok runs)
    (directory : String) :
    executor.Does files (.list directory) [.startSuite executor.name]
      ((executor.described directory).map fun entry => (entry.1, entry.2.descriptor.text)) [] := by
  intro space here unused
  rw [take, listRuns, selected, described, runs_eq selected, List.map_map, List.map_map,
    List.map_nil, List.append_nil]
  refine .after_silence (Procedure.perform_liftM _ space) rfl (.of_silent rfl rfl rfl) ?_
  exact .tell_then (enacts_describe directory _ _)

section Loaded

variable {runFile : String} (loaded : executor.loadRun files runFile = .ok run)

include loaded

/-- What is done with a run that is loaded is done in full. -/
theorem enacts_of_loaded {space : Workspace} (here : space.files = files)
    {later : PlannedRun → Procedure Unit} {effects : List Effect}
    (enacts : (later run).Enacts (space.look [runFile]) effects) :
    (executor.fetchRun runFile >>= later).Enacts space effects := by
  have fetched := executor.perform_fetchRun runFile space
  rw [here, loaded] at fetched
  exact .after_silence fetched rfl (space.hasHeard_look [runFile]) enacts

/-- A step with a whole run tells what a whole run tells, and leaves the samples unless the run
fails. -/
theorem does_benchmark (resultFile : String) :
    executor.Does files (.benchmark runFile resultFile)
      (run.startCall executor.name :: run.outputCalls executor.name run.execute.lines)
      (run.samplesText?.map fun text => (resultFile, text)).toList
      [run.lastCall executor.name] := by
  intro space here unused
  rw [take, benchmark, List.append_assoc]
  refine enacts_of_loaded loaded here (.tell_then (.run_then ?_))
  rw [PlannedRun.samplesText?, PlannedRun.lastCall]
  cases run.execute.outcome with
  | ok samples => exact .save_then fun later _ => .tell _ _
  | error failure => exact .tell _ _

/-- A step with an iteration before the measured ones leaves the count of invocations; the first
one starts the run. -/
theorem does_warmUp {index : Nat} {cycles : UInt64}
    (outcome : (run.warmUp index).outcome = .ok cycles) (resultFile : String) :
    executor.Does files (.warmUp runFile index resultFile)
      ((if index = 0 then [run.startCall executor.name] else []) ++
        run.outputCalls executor.name (run.warmUp index).lines)
      [(resultFile, toString cycles.toNat)] [] := by
  intro space here unused
  rw [take, warmUp, List.map_append, List.append_assoc, List.append_assoc]
  refine enacts_of_loaded loaded here (.tellAll_then (.run_then ?_))
  rw [outcome]
  exact enacts_leave executor run _ resultFile (.ok cycles) _

/-- A step with a measured iteration leaves its sample. -/
theorem does_measure {index : Nat} {cyclesFile : String} {cycles : UInt64}
    (reads : files.read? cyclesFile = some (toString cycles.toNat)) {sample : Binary64}
    (outcome : (run.measure index cycles).outcome = .ok sample) (resultFile : String) :
    executor.Does files (.measure runFile index cyclesFile resultFile)
      (run.outputCalls executor.name (run.measure index cycles).lines)
      [(resultFile, Samples.sampleText sample)] [] := by
  intro space here unused
  have counted : loadCycles files cyclesFile = .ok cycles := by
    rw [loadCycles, FileStore.holds_of_read? reads, FileStore.read, reads]
    simp only [bind, Except.bind, readCycles_toString]
    rfl
  rw [take, measure, List.append_assoc]
  have same : (space.look [runFile]).files = files := here
  refine enacts_of_loaded loaded here (enacts_of_counted counted same fun looked => ?_)
  refine .run_then ?_
  rw [outcome]
  exact enacts_leave executor run _ resultFile (.ok sample) _

/-- The step that ends a run tells its normal end, with the samples that are there. -/
theorem does_endRun {samplesFile : String} {samples : List Binary64}
    (reads : files.read? samplesFile = some (Samples.text samples))
    (readable : Samples.read (Samples.text samples).toList = .ok samples) :
    executor.Does files (.endRun runFile samplesFile) [] []
      [run.successCall executor.name samples] := by
  intro space here unused
  have taken : loadSamples files samplesFile = .ok samples := by
    rw [loadSamples, FileStore.read, reads]
    simp only [bind, Except.bind, readable]
    rfl
  have same : (space.look [samplesFile]).files = files := here
  rw [take, endRun]
  refine enacts_of_sampled taken here (enacts_of_loaded loaded same ?_)
  exact .tell _ _

end Loaded

end Executor

/-- The lines of a file of results are those that it was written with, if none of them is blank. -/
theorem resultLines_streamText {lines : List String}
    (areLines : ∀ line ∈ lines, Text.IsLine line.toList)
    (solid : ∀ line ∈ lines, Text.isBlank line.toList = false) :
    resultLines (streamText lines) = lines.map String.toList := by
  have chars : (streamText lines).toList =
      (lines.map String.toList).flatMap fun line => line ++ ['\n'] := by
    rw [streamText, String.toList_join, List.flatMap_map, List.flatMap_map]
    simp
  rw [resultLines, chars, Text.lines_flatMap]
  · rw [List.filter_eq_self]
    intro line member
    rw [List.mem_map] at member
    rcases member with ⟨text, inLines, rfl⟩
    rw [solid text inLines]
    rfl
  · intro line member
    rw [List.mem_map] at member
    rcases member with ⟨text, inLines, rfl⟩
    exact areLines text inLines

namespace PlannedRun

/-- The line of a run in a file of results, unless the run failed. -/
def resultLine? (runFile : String) (run : PlannedRun) : Option String :=
  run.samplesText?.map fun text => runFile ++ ": " ++ text

def resultLines (described : List (String × PlannedRun)) : List String :=
  described.filterMap fun entry => entry.2.resultLine? entry.1

theorem resultLine?_of_ok {run : PlannedRun} {samples : List Binary64}
    (outcome : run.execute.outcome = .ok samples) (runFile : String) :
    run.resultLine? runFile = some (runFile ++ ": " ++ Samples.text samples) := by
  rw [resultLine?, samplesText?, outcome]
  rfl

theorem resultLine?_of_error {run : PlannedRun} {failure : Failure}
    (outcome : run.execute.outcome = .error failure) (runFile : String) :
    run.resultLine? runFile = none := by
  rw [resultLine?, samplesText?, outcome]
  rfl

variable {described : List (String × PlannedRun)}

/-- A file of results is divided into the lines that it was put together from. -/
theorem resultLines_read (iterations : ∀ entry ∈ described, entry.2.settings.iterations ≠ 0)
    (noFeeds : ∀ entry ∈ described, '\n' ∉ entry.1.toList) :
    Microbench.resultLines (streamText (resultLines described)) =
      (resultLines described).map String.toList := by
  have shape : ∀ line ∈ resultLines described, Text.IsLine line.toList ∧ ':' ∈ line.toList := by
    intro line member
    rw [resultLines, List.mem_filterMap] at member
    rcases member with ⟨entry, inDescribed, lineOf⟩
    cases outcome : entry.2.execute.outcome with
    | error failure =>
        rw [resultLine?_of_error outcome] at lineOf
        cases lineOf
    | ok samples =>
        rw [resultLine?_of_ok outcome, Option.some.injEq] at lineOf
        have some := (read_samplesText (iterations entry inDescribed) outcome).1
        rw [← lineOf]
        refine ⟨Samples.isLine_result (noFeeds entry inDescribed) some, ?_⟩
        simp
  apply resultLines_streamText
  · intro line member
    exact (shape line member).1
  · intro line member
    rw [Text.isBlank, List.all_eq_false]
    exact ⟨':', (shape line member).2, by decide⟩

end PlannedRun

namespace Executor

variable [PatternLanguage] [WorkingDirectory] {executor : Executor} {files : FileStore}
  {described : List (String × PlannedRun)}

/-- The lines of runs have the results of these runs. -/
theorem loadResults_resultLines
    (loaded : ∀ entry ∈ described, executor.loadRun files entry.1 = .ok entry.2)
    (iterations : ∀ entry ∈ described, entry.2.settings.iterations ≠ 0) (path : String)
    (earlier : List RunResult) :
    executor.loadResults files path earlier
        ((PlannedRun.resultLines described).map String.toList) =
      (.ok (), earlier ++ PlannedRun.allResults (described.map Prod.snd)) := by
  induction described generalizing earlier with
  | nil =>
      rw [List.map_nil, PlannedRun.allResults, List.filterMap_nil, List.append_nil]
      rfl
  | cons entry described ih =>
      have later := ih (fun other member => loaded other (by simp [member]))
        (fun other member => iterations other (by simp [member]))
      rw [PlannedRun.resultLines] at later ⊢
      rw [PlannedRun.allResults, List.map_cons]
      cases outcome : entry.2.execute.outcome with
      | error failure =>
          have noResult : entry.2.result? entry.2.execute = none := by
            rw [PlannedRun.result?, outcome]
            rfl
          have noLine := PlannedRun.resultLine?_of_error outcome entry.1
          simp only [List.filterMap_cons, noLine, noResult]
          exact later earlier
      | ok samples =>
          have result : entry.2.result? entry.2.execute = some (entry.2.result samples) := by
            rw [PlannedRun.result?, outcome]
            rfl
          have reads := (PlannedRun.read_samplesText (iterations entry (by simp)) outcome).2
          have own : executor.loadResult files path
              (entry.1 ++ ": " ++ Samples.text samples).toList =
                .ok (entry.2.result samples) := by
            rw [loadResult, ResultLine.read_append]
            simp only [FileFault.inFile, bind, Except.bind, reads, loaded entry (by simp)]
            rfl
          have line := PlannedRun.resultLine?_of_ok outcome entry.1
          simp only [List.filterMap_cons, line, result, List.map_cons]
          rw [loadResults, own, List.append_cons]
          exact later (earlier ++ [entry.2.result samples])

/-- The last step ends the execution and saves the report of the runs in the file of results. -/
theorem does_storeResults {resultsFile : String} (unused : executor.results = [])
    (reads : files.read? resultsFile = some (streamText (PlannedRun.resultLines described)))
    (loaded : ∀ entry ∈ described, executor.loadRun files entry.1 = .ok entry.2)
    (iterations : ∀ entry ∈ described, entry.2.settings.iterations ≠ 0)
    (noFeeds : ∀ entry ∈ described, '\n' ∉ entry.1.toList) :
    executor.Does files (.storeResults resultsFile)
      [executor.endCall (PlannedRun.allResults (described.map Prod.snd))]
      [(executor.configuration.reportFile,
        executor.report (PlannedRun.allResults (described.map Prod.snd)))] [] := by
  intro space here none
  have results := loadResults_resultLines loaded iterations resultsFile []
  have read := Procedure.perform_read resultsFile space
  rw [here, FileStore.read, reads] at read
  have same : (space.look [resultsFile]).results = [] := none.trans unused
  have files : (space.look [resultsFile]).files = files := here
  rcases executor.perform_fetchResults resultsFile
    (Microbench.resultLines (streamText (PlannedRun.resultLines described)))
    (space.look [resultsFile]) with ⟨looked, fetched⟩
  rw [same, files, PlannedRun.resultLines_read iterations noFeeds, results] at fetched
  rw [take, storeResults]
  refine .after_silence read rfl (space.hasHeard_look [resultsFile]) ?_
  rw [PlannedRun.resultLines_read iterations noFeeds]
  refine .after_silence fetched rfl ?_ ?_
  · have silent := (space.look [resultsFile]).hasHeard_look looked
    exact ⟨silent.reporter, silent.lines, silent.calls⟩
  · exact executor.enacts_complete _

end Executor

section Hosts

variable [PatternLanguage] [WorkingDirectory]

/-- What every host needs: the selected benchmarks have different names, the files of the host can
be written, no step was taken before, and each run has something to measure. -/
structure Executor.CanSpread (executor : Executor) (files : FileStore)
    (progressFile directory : String) (paths : List String) : Prop where
  /-- Qualified names are different. -/
  names : (executor.benchmarks.map PlannedBenchmark.qualifiedName).Nodup
  /-- Names have no line breaks in them. -/
  noBreaks : ∀ run ∈ executor.runs, Text.HasNoBreaks run.name
  /-- Neither have the paths of the descriptors. -/
  noPathBreaks : ∀ runFile ∈ executor.runFiles directory, Text.HasNoBreaks runFile
  /-- Each run has a measured iteration. -/
  iterations : ∀ run ∈ executor.runs, run.settings.iterations ≠ 0
  /-- There is no cursor yet. -/
  absent : files.holds progressFile = false
  /-- The files can be written. -/
  admits : files.Admits paths
  /-- The report is not written over the cursor. -/
  report : Route.placeOf executor.configuration.reportFile ≠ Route.placeOf progressFile

/-- Where no files are yet, any names will do. -/
theorem Executor.canSpread_empty {executor : Executor} {progressFile directory : String}
    {paths : List String} (fileNames : ∀ path ∈ paths, Route.IsFileName path)
    (progressMember : progressFile ∈ paths)
    (reportMember : executor.configuration.reportFile ∈ paths)
    (elsewhere : executor.configuration.reportFile ≠ progressFile)
    (names : (executor.benchmarks.map PlannedBenchmark.qualifiedName).Nodup)
    (noBreaks : ∀ run ∈ executor.runs, Text.HasNoBreaks run.name)
    (noPathBreaks : ∀ runFile ∈ executor.runFiles directory, Text.HasNoBreaks runFile)
    (iterations : ∀ run ∈ executor.runs, run.settings.iterations ≠ 0) :
    executor.CanSpread .empty progressFile directory paths := by
  refine ⟨names, noBreaks, noPathBreaks, iterations, ?_, FileStore.admits_empty fileNames, ?_⟩
  · exact FileStore.holds_empty (fileNames progressFile progressMember)
  · intro same
    exact elsewhere (Route.placeOf_fileName_inj (fileNames _ reportMember)
      (fileNames _ progressMember) same)

/-- A descriptor that is still there is loaded as its run. -/
theorem Executor.CanSpread.loadRun {executor : Executor} {files later : FileStore}
    {progressFile directory : String} {paths : List String} {entry : String × PlannedRun}
    (canSpread : executor.CanSpread files progressFile directory paths)
    (member : entry ∈ executor.described directory)
    (reads : later.read? entry.1 = some entry.2.descriptor.text) :
    executor.loadRun later entry.1 = .ok entry.2 :=
  loadRun_described canSpread.names (mem_runs_of_described member) reads

namespace Hosting

section Frame

variable {executor : Executor} {format : TraceFormat} {files : FileStore}
  {progressFile directory resultsFile : String} {paths : List String} {hosting : Hosting}
  {runs : List PlannedRun}
  (canSpread : executor.CanSpread files progressFile directory paths)
  (fresh : executor.reporter = .create format)
  (selected : selectRuns executor.suites executor.configuration = .ok runs)
  (progressMember : progressFile ∈ paths)

include canSpread fresh selected progressMember

/-- The first step starts the execution and leaves the descriptors. -/
theorem stands_list
    (members : ∀ entry ∈ executor.described directory, entry.1 ∈ paths ∧
      Route.placeOf entry.1 ≠ Route.placeOf progressFile)
    (distinct : ((executor.described directory).map fun entry => Route.placeOf entry.1).Nodup) :
    let listed := (start files).step executor progressFile (.list directory)
    listed.Stands executor format progressFile paths [.startSuite executor.name] ∧
      (∀ entry ∈ executor.described directory,
        listed.files.read? entry.1 = some entry.2.descriptor.text) ∧
      ∀ path ∈ paths, Route.placeOf path ≠ Route.placeOf progressFile →
        (∀ entry ∈ executor.described directory, Route.placeOf path ≠ Route.placeOf entry.1) →
          FileStore.Keeps files listed.files path := by
  intro listed
  have started := stands_start fresh canSpread.absent canSpread.admits
  have does : executor.Does (start files).files (.list directory) _ _ _ :=
    Executor.does_list selected directory
  have inPaths : ∀ save ∈ (executor.described directory).map
      fun entry => (entry.1, entry.2.descriptor.text), save.1 ∈ paths := by
    intro save inSaves
    rcases List.mem_map.mp inSaves with ⟨entry, member, rfl⟩
    exact (members entry member).1
  have places : (((executor.described directory).map
      fun entry => (entry.1, entry.2.descriptor.text)).map
        fun save => Route.placeOf save.1).Nodup := by
    rw [List.map_map]
    exact distinct
  have clean : ∀ call ∈ [ReporterCall.startSuite executor.name] ++ [], call.IsClean := by
    rw [List.append_nil, List.forall_mem_singleton]
    trivial
  rcases started.step fresh progressMember does inPaths places clean with ⟨stands, reads, keeps⟩
  refine ⟨stands, ?_, ?_⟩
  · intro entry member
    exact reads (entry.1, entry.2.descriptor.text) (List.mem_map.mpr ⟨entry, member, rfl⟩)
      (members entry member).2
  · intro path pathMember notProgress notDescriptor
    apply keeps path pathMember notProgress
    intro save inSaves
    rcases List.mem_map.mp inSaves with ⟨entry, member, rfl⟩
    exact notDescriptor entry member

/-- A host that has the samples of all runs puts them into one file and takes the last step. Then
everything is told, and the report is there. -/
theorem Stands.agreesWith_of_store (unused : executor.results = [])
    (stands : hosting.Stands executor format progressFile paths
      (.startSuite executor.name :: PlannedRun.allCalls executor.name executor.runs))
    (resultsMember : resultsFile ∈ paths)
    (reportMember : executor.configuration.reportFile ∈ paths)
    (elsewhere : Route.placeOf resultsFile ≠ Route.placeOf progressFile)
    (members : ∀ entry ∈ executor.described directory, entry.1 ∈ paths ∧
      Route.placeOf entry.1 ≠ Route.placeOf resultsFile)
    (left : ∀ entry ∈ executor.described directory,
      hosting.files.read? entry.1 = some entry.2.descriptor.text) :
    ((hosting.write resultsFile
      (streamText (PlannedRun.resultLines (executor.described directory)))).step executor
        progressFile (.storeResults resultsFile)).AgreesWith executor files := by
  rcases stands.write (by simp) progressMember resultsMember elsewhere
    (streamText (PlannedRun.resultLines (executor.described directory))) with
    ⟨standsWritten, readsWritten, keeps⟩
  have loaded : ∀ entry ∈ executor.described directory, executor.loadRun
      (hosting.write resultsFile
        (streamText (PlannedRun.resultLines (executor.described directory)))).files entry.1 =
          .ok entry.2 := by
    intro entry member
    rcases members entry member with ⟨inPaths, notResults⟩
    have kept := keeps entry.1 inPaths notResults
    exact canSpread.loadRun member (kept.reads _ (left entry member))
  have iterations : ∀ entry ∈ executor.described directory,
      entry.2.settings.iterations ≠ 0 := by
    intro entry member
    exact canSpread.iterations entry.2 (Executor.mem_runs_of_described member)
  have noFeeds : ∀ entry ∈ executor.described directory, '\n' ∉ entry.1.toList := by
    intro entry member
    exact (canSpread.noPathBreaks entry.1 (List.mem_map_of_mem member)).1
  have does := Executor.does_storeResults unused readsWritten loaded iterations noFeeds
  have clean : ∀ call ∈ [executor.endCall (PlannedRun.allResults
      ((executor.described directory).map Prod.snd))] ++ [], call.IsClean := by
    rw [List.append_nil, List.forall_mem_singleton]
    trivial
  rcases standsWritten.step fresh progressMember does (by simp [reportMember]) (by simp) clean with
    ⟨standsStored, reads, -⟩
  have report := reads _ (List.mem_singleton_self _) canSpread.report
  rw [Executor.map_snd_described, Executor.runs_eq selected] at standsStored report
  exact standsStored.agreesWith selected report canSpread.admits reportMember

end Frame

end Hosting

end Hosts

namespace Demonstration

/-- At the root, files are in the places of their names. -/
theorem placeOf_root {path : String} (fileName : Route.IsFileName path) :
    Route.placeOf path = path := by
  rw [Route.placeOf_fileName fileName]
  exact Route.place_singleton path

end Demonstration

end Microbench
