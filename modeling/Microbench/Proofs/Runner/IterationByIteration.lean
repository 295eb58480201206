import Mathlib.Data.List.Induction
import Microbench.Proofs.Measurement.Steady
import Microbench.Proofs.Runner.Steps

/-!
# An execution spread over its iterations

A host program can go further and leave each iteration to a process of its own, which works on an
instance of its own. The steps before the measured ones count the invocations of an iteration, each
anew; the others take the count that was left. The host collects the samples of a run and ends it.

Nobody can tell from the progress or from the report that the execution was spread, as long as
nothing fails and the clock shows the same for blocks of the same size. Then all counts agree, and
it does not matter that no instance sees the invocations of the others.
-/

namespace Microbench

namespace PlannedRun

/-- Nothing fails in a run, and the time of a block of invocations depends on its size alone. -/
structure IsSteady (run : PlannedRun) : Prop where
  construct : run.planned.suite.hooks.construct = none
  parametrize : run.planned.suite.hooks.parametrize run.parameters = none
  setup : run.planned.suite.hooks.setup run.parameters = none
  teardown : ∀ calls,
    run.planned.suite.hooks.teardown run.planned.benchmark run.parameters calls = none
  invocation : ∀ call,
    (run.planned.benchmark.invocation run.parameters call).panic? = none
  elapsed : ∀ calls cycles, run.planned.benchmark.elapsed run.parameters calls cycles =
    run.planned.benchmark.elapsed run.parameters 0 cycles

def IsSteady.work {run : PlannedRun} (steady : run.IsSteady) : SteadyWork :=
  ⟨run.planned.suite, run.planned.benchmark, run.parameters, steady.construct, steady.parametrize,
    steady.setup, steady.teardown, steady.invocation, steady.elapsed⟩

theorem isClean_outputCalls (run : PlannedRun) (name : String) (lines : List String) :
    ∀ call ∈ run.outputCalls name lines, call.IsClean := by
  intro call inCalls
  rcases List.mem_map.mp inCalls with ⟨line, -, rfl⟩
  trivial

section Steady

variable {run : PlannedRun}

/-- The text of the invocations of an iteration. -/
def IsSteady.cyclesText (steady : run.IsSteady) : String :=
  toString (steady.work.cycles run.settings).toNat

def IsSteady.samples (steady : run.IsSteady) : List Binary64 :=
  .replicate run.settings.iterations.toNat (steady.work.sample run.settings)

/-- What is told of the iterations before the measured ones. -/
def IsSteady.warmUpCalls (steady : run.IsSteady) (name : String) (count : Nat) :
    List ReporterCall :=
  run.outputCalls name ((List.range count).map (steady.work.warmUpLine run.settings))

/-- What is told of the measured iterations. -/
def IsSteady.measureCalls (steady : run.IsSteady) (name : String) (count : Nat) :
    List ReporterCall :=
  run.outputCalls name ((List.range count).map (steady.work.measureLine run.settings))

theorem IsSteady.warmUpCalls_succ (steady : run.IsSteady) (name : String) (count : Nat) :
    steady.warmUpCalls name (count + 1) = steady.warmUpCalls name count ++
      run.outputCalls name [steady.work.warmUpLine run.settings count] := by
  simp [warmUpCalls, outputCalls, List.range_succ]

theorem IsSteady.measureCalls_succ (steady : run.IsSteady) (name : String) (count : Nat) :
    steady.measureCalls name (count + 1) = steady.measureCalls name count ++
      run.outputCalls name [steady.work.measureLine run.settings count] := by
  simp [measureCalls, outputCalls, List.range_succ]

variable (found : run.planned.suite.benchmarks[run.planned.index]? = some run.planned.benchmark)

include found

theorem IsSteady.warmUp (steady : run.IsSteady) (index : Nat) :
    (run.warmUp index).outcome = .ok (steady.work.cycles run.settings) ∧
      (run.warmUp index).lines = [steady.work.warmUpLine run.settings index] :=
  @Execution.warmUp_steady steady.work run.planned.index found run.settings index

theorem IsSteady.measure (steady : run.IsSteady) (index : Nat) :
    (run.measure index (steady.work.cycles run.settings)).outcome =
        .ok (steady.work.sample run.settings) ∧
      (run.measure index (steady.work.cycles run.settings)).lines =
        [steady.work.measureLine run.settings index] :=
  @Execution.measure_steady steady.work run.planned.index found run.settings index

theorem IsSteady.execute (steady : run.IsSteady) :
    run.execute.outcome = .ok steady.samples ∧
      run.execute.lines =
        (List.range run.settings.warmups.toNat).map (steady.work.warmUpLine run.settings) ++
          (List.range run.settings.iterations.toNat).map
            (steady.work.measureLine run.settings) :=
  @Execution.run_steady steady.work run.planned.index found run.settings

/-- All that is told of a whole run. -/
theorem IsSteady.calls (steady : run.IsSteady) (name : String) :
    run.calls name run.execute =
      run.startCall name :: steady.warmUpCalls name run.settings.warmups.toNat ++
        steady.measureCalls name run.settings.iterations.toNat ++
          [run.successCall name steady.samples] := by
  rcases steady.execute found with ⟨outcome, lines⟩
  rw [calls_eq, lastCall, outcome, lines]
  simp [warmUpCalls, measureCalls, outputCalls]

end Steady

end PlannedRun

/-- A host program that leaves each iteration to one process, and the files that it uses; those of
a run are given by the file of the run's descriptor. -/
structure IterationHost where
  /-- The file of the reporter's cursor. -/
  progressFile : String
  directory : String
  cyclesFile : String → String
  sampleFile : String → String
  samplesFile : String → String
  resultsFile : String

namespace IterationHost

variable [PatternLanguage]

/-- The files that the steps of a run leave for each other. -/
def scratch (host : IterationHost) (runFile : String) : List String :=
  [host.cyclesFile runFile, host.sampleFile runFile, host.samplesFile runFile]

/-- The files that the steps write. -/
def paths (host : IterationHost) (executor : Executor) : List String :=
  let runFiles := executor.runFiles host.directory
  executor.configuration.reportFile :: host.progressFile :: host.resultsFile :: runFiles ++
    runFiles.flatMap host.scratch

section Paths

variable {host : IterationHost} {executor : Executor} {entry : String × PlannedRun}

theorem progress_mem : host.progressFile ∈ host.paths executor := by
  simp [paths]

theorem runFile_mem (member : entry ∈ executor.described host.directory) :
    entry.1 ∈ host.paths executor := by
  have runFile : entry.1 ∈ executor.runFiles host.directory := List.mem_map_of_mem member
  simp [paths, runFile]

theorem scratch_mem (member : entry ∈ executor.described host.directory) {file : String}
    (inScratch : file ∈ host.scratch entry.1) : file ∈ host.paths executor := by
  have runFile : entry.1 ∈ executor.runFiles host.directory := List.mem_map_of_mem member
  have inFlat : file ∈ (executor.runFiles host.directory).flatMap host.scratch :=
    List.mem_flatMap.mpr ⟨entry.1, runFile, inScratch⟩
  simp [paths, inFlat]

end Paths

variable [WorkingDirectory]

/-- The steps of a run before the measured ones. -/
def warmUp (host : IterationHost) (executor : Executor) (runFile : String) (count : Nat)
    (hosting : Hosting) : Hosting :=
  (List.range count).foldl (fun hosting index =>
    hosting.step executor host.progressFile (.warmUp runFile index (host.cyclesFile runFile)))
    hosting

/-- The measured steps of a run, and the texts of the samples. -/
def measure (host : IterationHost) (executor : Executor) (runFile : String) (count : Nat)
    (hosting : Hosting) : Hosting × List String :=
  (List.range count).foldl (fun (state : Hosting × List String) index =>
    let next := state.1.step executor host.progressFile
      (.measure runFile index (host.cyclesFile runFile) (host.sampleFile runFile))
    (next, state.2 ++ (next.files.read? (host.sampleFile runFile)).toList))
    (hosting, [])

/-- All steps of a run, and the line about its samples. -/
def executeRun (host : IterationHost) (executor : Executor) (hosting : Hosting) (runFile : String)
    (settings : Settings) : Hosting × String :=
  let warm := host.warmUp executor runFile settings.warmups.toNat hosting
  let measured := host.measure executor runFile settings.iterations.toNat warm
  let samples := ", ".intercalate measured.2
  let written := measured.1.write (host.samplesFile runFile) samples
  (written.step executor host.progressFile (.endRun runFile (host.samplesFile runFile)),
    runFile ++ ": " ++ samples)

/-- All steps of runs, one run after the other, and the lines about their samples. -/
def executeRuns (host : IterationHost) (executor : Executor) (hosting : Hosting)
    (described : List (String × PlannedRun)) : Hosting × List String :=
  described.foldl (fun (state : Hosting × List String) entry =>
    let next := host.executeRun executor state.1 entry.1 entry.2.settings
    (next.1, state.2 ++ [next.2]))
    (hosting, [])

/-- All steps of an execution. -/
def execute (host : IterationHost) (executor : Executor) (files : FileStore) : Hosting :=
  let listed := (Hosting.start files).step executor host.progressFile (.list host.directory)
  let executed := host.executeRuns executor listed (executor.described host.directory)
  let written := executed.1.write host.resultsFile (streamText executed.2)
  written.step executor host.progressFile (.storeResults host.resultsFile)

/-- The files that last as long as the execution: the cursor and the descriptors. -/
def lasting (host : IterationHost) (executor : Executor) : List String :=
  (host.progressFile :: executor.runFiles host.directory).map Route.placeOf

/-- The host can carry the execution out: files that last are not written over, and each run is
steady and has an iteration before the measured ones. -/
structure CanHost (host : IterationHost) (executor : Executor) (files : FileStore) : Prop
    extends executor.CanSpread files host.progressFile host.directory (host.paths executor) where
  /-- Each run has an iteration before the measured ones. -/
  warmups : ∀ run ∈ executor.runs, run.settings.warmups ≠ 0
  /-- Nothing fails, and time depends on the size of a block alone. -/
  steady : ∀ run ∈ executor.runs, run.IsSteady
  /-- The files that last are different ones. -/
  distinct : (host.lasting executor).Nodup
  /-- So are those of a run. -/
  scratch : ∀ runFile ∈ executor.runFiles host.directory,
    ((host.scratch runFile).map Route.placeOf).Nodup ∧
      ∀ file ∈ host.scratch runFile, Route.placeOf file ∉ host.lasting executor
  /-- All samples are written to a file of their own. -/
  results : Route.placeOf host.resultsFile ∉ host.lasting executor

/-- The host is at work: the steps so far have told these calls, and the descriptors are there. -/
structure Serves (host : IterationHost) (executor : Executor) (format : TraceFormat)
    (calls : List ReporterCall) (hosting : Hosting) : Prop where
  stands : hosting.Stands executor format host.progressFile (host.paths executor) calls
  described : ∀ entry ∈ executor.described host.directory,
    hosting.files.read? entry.1 = some entry.2.descriptor.text

variable {host : IterationHost} {executor : Executor} {files : FileStore} {format : TraceFormat}
  {calls : List ReporterCall} {hosting : Hosting} {entry : String × PlannedRun}

section Places

/-- A place where nothing lasting is, is neither that of the cursor nor that of a descriptor. -/
theorem ne_of_notMem_lasting {place : String} (notLasting : place ∉ host.lasting executor) :
    place ≠ Route.placeOf host.progressFile ∧
      ∀ entry ∈ executor.described host.directory, Route.placeOf entry.1 ≠ place := by
  constructor
  · rintro rfl
    exact notLasting (by simp [lasting])
  · rintro entry member rfl
    apply notLasting
    have runFile : entry.1 ∈ executor.runFiles host.directory := List.mem_map_of_mem member
    exact List.mem_map_of_mem (List.mem_cons_of_mem _ runFile)

/-- Descriptors are in different files, none of which is that of the cursor. -/
theorem descriptors_of_lasting (distinct : (host.lasting executor).Nodup) :
    (∀ entry ∈ executor.described host.directory, entry.1 ∈ host.paths executor ∧
      Route.placeOf entry.1 ≠ Route.placeOf host.progressFile) ∧
    ((executor.described host.directory).map fun entry => Route.placeOf entry.1).Nodup := by
  rw [lasting, List.map_cons, List.nodup_cons, Executor.runFiles, List.map_map] at distinct
  refine ⟨?_, distinct.2⟩
  intro entry member
  refine ⟨runFile_mem member, ?_⟩
  intro same
  apply distinct.1
  rw [← same]
  exact List.mem_map_of_mem (f := Route.placeOf ∘ Prod.fst) member

theorem CanHost.descriptors (canHost : host.CanHost executor files) :
    (∀ entry ∈ executor.described host.directory, entry.1 ∈ host.paths executor ∧
      Route.placeOf entry.1 ≠ Route.placeOf host.progressFile) ∧
    ((executor.described host.directory).map fun entry => Route.placeOf entry.1).Nodup :=
  descriptors_of_lasting canHost.distinct

theorem CanHost.scratch_place (canHost : host.CanHost executor files)
    (member : entry ∈ executor.described host.directory) {file : String}
    (inScratch : file ∈ host.scratch entry.1) :
    Route.placeOf file ≠ Route.placeOf host.progressFile ∧
      ∀ other ∈ executor.described host.directory, Route.placeOf other.1 ≠ Route.placeOf file :=
  ne_of_notMem_lasting
    ((canHost.scratch entry.1 (List.mem_map_of_mem member)).2 file inScratch)

end Places

section Steps

/-- A step that leaves one file of a run at most keeps the descriptors and the run's other files. -/
theorem Serves.step (serves : host.Serves executor format calls hosting)
    (canHost : host.CanHost executor files) (fresh : executor.reporter = .create format)
    (member : entry ∈ executor.described host.directory) {next : Step}
    {first last : List ReporterCall} {save? : Option (String × String)}
    (does : executor.Does hosting.files next first save?.toList last)
    (saved : ∀ save ∈ save?, save.1 ∈ host.scratch entry.1)
    (clean : ∀ call ∈ first ++ last, call.IsClean) :
    let after := hosting.step executor host.progressFile next
    host.Serves executor format (calls ++ (first ++ last)) after ∧
      (∀ save ∈ save?, after.files.read? save.1 = some save.2) ∧
      ∀ file ∈ host.scratch entry.1,
        (∀ save ∈ save?, Route.placeOf file ≠ Route.placeOf save.1) →
          FileStore.Keeps hosting.files after.files file := by
  intro after
  have inPaths : ∀ save ∈ save?.toList, save.1 ∈ host.paths executor := by
    intro save inSaves
    exact scratch_mem member (saved save (Option.mem_toList.mp inSaves))
  have single : (save?.toList.map fun save => Route.placeOf save.1).Nodup := by
    cases save? with
    | none => simp
    | some save => simp
  rcases serves.stands.step fresh progress_mem does inPaths single clean with
    ⟨stands, reads, keeps⟩
  refine ⟨⟨stands, ?_⟩, ?_, ?_⟩
  · intro other otherMember
    have kept := keeps other.1 (runFile_mem otherMember)
      (canHost.descriptors.1 other otherMember).2 (by
        intro save inSaves
        have inScratch := saved save (Option.mem_toList.mp inSaves)
        exact (canHost.scratch_place member inScratch).2 other otherMember)
    exact kept.reads _ (serves.described other otherMember)
  · intro save inSave
    exact reads save (Option.mem_toList.mpr inSave)
      (canHost.scratch_place member (saved save inSave)).1
  · intro file inScratch notSaved
    apply keeps file (scratch_mem member inScratch) (canHost.scratch_place member inScratch).1
    intro save inSaves
    exact notSaved save (Option.mem_toList.mp inSaves)

/-- So does a file of a run that the host writes. -/
theorem Serves.write (serves : host.Serves executor format calls hosting)
    (canHost : host.CanHost executor files) (begun : calls ≠ [])
    (member : entry ∈ executor.described host.directory) {file : String}
    (inScratch : file ∈ host.scratch entry.1) (text : String) :
    host.Serves executor format calls (hosting.write file text) ∧
      (hosting.write file text).files.read? file = some text := by
  have place := canHost.scratch_place member inScratch
  rcases serves.stands.write begun progress_mem (scratch_mem member inScratch) place.1 text with
    ⟨stands, reads, keeps⟩
  refine ⟨⟨stands, ?_⟩, reads⟩
  intro other otherMember
  have kept := keeps other.1 (runFile_mem otherMember) (place.2 other otherMember)
  exact kept.reads _ (serves.described other otherMember)

theorem Serves.loaded (serves : host.Serves executor format calls hosting)
    (canHost : host.CanHost executor files)
    (member : entry ∈ executor.described host.directory) :
    executor.loadRun hosting.files entry.1 = .ok entry.2 :=
  canHost.loadRun member (serves.described entry member)

/-- One step before the measured ones counts the invocations. -/
theorem Serves.stepWarmUp (serves : host.Serves executor format calls hosting)
    (canHost : host.CanHost executor files) (fresh : executor.reporter = .create format)
    (member : entry ∈ executor.described host.directory) (steady : entry.2.IsSteady)
    (index : Nat) :
    let after := hosting.step executor host.progressFile
      (.warmUp entry.1 index (host.cyclesFile entry.1))
    host.Serves executor format
        (calls ++ ((if index = 0 then [entry.2.startCall executor.name] else []) ++
          entry.2.outputCalls executor.name [steady.work.warmUpLine entry.2.settings index]))
        after ∧
      after.files.read? (host.cyclesFile entry.1) =
        some steady.cyclesText := by
  intro after
  have inRuns := Executor.mem_runs_of_described member
  rcases steady.warmUp (Executor.benchmark_of_mem_runs inRuns) index with ⟨outcome, lines⟩
  have does := Executor.does_warmUp (serves.loaded canHost member) outcome
    (host.cyclesFile entry.1)
  rw [lines] at does
  have clean : ∀ call ∈ ((if index = 0 then [entry.2.startCall executor.name] else []) ++
      entry.2.outputCalls executor.name [steady.work.warmUpLine entry.2.settings index]) ++ [],
        call.IsClean := by
    intro call inCalls
    rw [List.append_nil, List.mem_append] at inCalls
    rcases inCalls with inStart | inOutput
    · split at inStart
      · rw [List.mem_singleton.mp inStart]
        exact PlannedRun.isClean_startCall (canHost.noBreaks entry.2 inRuns) executor.name
      · cases inStart
    · exact PlannedRun.isClean_outputCalls entry.2 executor.name _ call inOutput
  have saved : ∀ save ∈ some (host.cyclesFile entry.1, steady.cyclesText),
      save.1 ∈ host.scratch entry.1 := by
    intro save same
    cases same
    simp [scratch]
  rcases serves.step canHost fresh member does saved clean with ⟨servesAfter, reads, -⟩
  rw [List.append_nil] at servesAfter
  exact ⟨servesAfter, reads _ rfl⟩

/-- The steps before the measured ones start the run and leave the count. -/
theorem Serves.warmUp (serves : host.Serves executor format calls hosting)
    (canHost : host.CanHost executor files) (fresh : executor.reporter = .create format)
    (member : entry ∈ executor.described host.directory) (steady : entry.2.IsSteady)
    (count : Nat) :
    let warm := host.warmUp executor entry.1 (count + 1) hosting
    host.Serves executor format (calls ++ (entry.2.startCall executor.name ::
        steady.warmUpCalls executor.name (count + 1))) warm ∧
      warm.files.read? (host.cyclesFile entry.1) = some steady.cyclesText := by
  induction count with
  | zero => exact serves.stepWarmUp canHost fresh member steady 0
  | succ count ih =>
      have next := ih.1.stepWarmUp canHost fresh member steady (count + 1)
      rw [if_neg (Nat.succ_ne_zero count), List.nil_append, List.append_assoc,
        List.cons_append, ← steady.warmUpCalls_succ] at next
      rw [IterationHost.warmUp, List.range_succ, List.foldl_append]
      exact next

/-- One measured step takes one sample, and leaves the count for the next one. -/
theorem Serves.stepMeasure (serves : host.Serves executor format calls hosting)
    (canHost : host.CanHost executor files) (fresh : executor.reporter = .create format)
    (member : entry ∈ executor.described host.directory) (steady : entry.2.IsSteady)
    (counted : hosting.files.read? (host.cyclesFile entry.1) = some steady.cyclesText)
    (index : Nat) :
    let after := hosting.step executor host.progressFile
      (.measure entry.1 index (host.cyclesFile entry.1) (host.sampleFile entry.1))
    host.Serves executor format
        (calls ++ entry.2.outputCalls executor.name
          [steady.work.measureLine entry.2.settings index]) after ∧
      after.files.read? (host.cyclesFile entry.1) = some steady.cyclesText ∧
      after.files.read? (host.sampleFile entry.1) =
        some (Samples.sampleText (steady.work.sample entry.2.settings)) := by
  intro after
  have inRuns := Executor.mem_runs_of_described member
  rcases steady.measure (Executor.benchmark_of_mem_runs inRuns) index with ⟨outcome, lines⟩
  have does := Executor.does_measure (serves.loaded canHost member) counted outcome
    (host.sampleFile entry.1)
  rw [lines] at does
  have saved : ∀ save ∈ some (host.sampleFile entry.1,
      Samples.sampleText (steady.work.sample entry.2.settings)),
        save.1 ∈ host.scratch entry.1 := by
    intro save same
    cases same
    simp [scratch]
  rcases serves.step canHost fresh member does saved (by
    rw [List.append_nil]
    exact PlannedRun.isClean_outputCalls entry.2 executor.name _) with ⟨servesAfter, reads, keeps⟩
  rw [List.append_nil] at servesAfter
  have apart := (canHost.scratch entry.1 (List.mem_map_of_mem member)).1
  have kept := keeps (host.cyclesFile entry.1) (by simp [scratch]) (by
    intro save same
    cases same
    intro samePlace
    simp [scratch, samePlace] at apart)
  exact ⟨servesAfter, kept.reads _ counted, reads _ rfl⟩

/-- The measured steps take all samples. -/
theorem Serves.measure (serves : host.Serves executor format calls hosting)
    (canHost : host.CanHost executor files) (fresh : executor.reporter = .create format)
    (member : entry ∈ executor.described host.directory) (steady : entry.2.IsSteady)
    (counted : hosting.files.read? (host.cyclesFile entry.1) = some steady.cyclesText)
    (count : Nat) :
    let measured := host.measure executor entry.1 count hosting
    host.Serves executor format (calls ++ steady.measureCalls executor.name count) measured.1 ∧
      measured.1.files.read? (host.cyclesFile entry.1) = some steady.cyclesText ∧
      measured.2 = List.replicate count
        (Samples.sampleText (steady.work.sample entry.2.settings)) := by
  induction count with
  | zero =>
      refine ⟨?_, counted, rfl⟩
      rw [PlannedRun.IsSteady.measureCalls, List.range_zero, List.map_nil,
        PlannedRun.outputCalls, List.map_nil, List.append_nil]
      exact serves
  | succ count ih =>
      rcases ih with ⟨servesEarlier, countedEarlier, texts⟩
      rcases servesEarlier.stepMeasure canHost fresh member steady countedEarlier count with
        ⟨servesNext, countedNext, sample⟩
      rw [List.append_assoc, ← steady.measureCalls_succ] at servesNext
      have succ : host.measure executor entry.1 (count + 1) hosting =
          ((host.measure executor entry.1 count hosting).1.step executor host.progressFile
            (.measure entry.1 count (host.cyclesFile entry.1) (host.sampleFile entry.1)),
          List.replicate (count + 1)
            (Samples.sampleText (steady.work.sample entry.2.settings))) := by
        rw [List.replicate_succ', ← texts, ← Option.toList_some, ← sample,
          IterationHost.measure, List.range_succ, List.foldl_append]
        rfl
      rw [succ]
      exact ⟨servesNext, countedNext, rfl⟩

/-- All steps of a run tell what the whole run tells, and the host has its line. -/
theorem Serves.executeRun (serves : host.Serves executor format calls hosting)
    (canHost : host.CanHost executor files) (fresh : executor.reporter = .create format)
    (member : entry ∈ executor.described host.directory) :
    let executed := host.executeRun executor hosting entry.1 entry.2.settings
    host.Serves executor format (calls ++ entry.2.calls executor.name entry.2.execute)
        executed.1 ∧
      entry.2.resultLine? entry.1 = some executed.2 := by
  intro executed
  have inRuns := Executor.mem_runs_of_described member
  have found := Executor.benchmark_of_mem_runs inRuns
  have steady := canHost.steady entry.2 inRuns
  rcases steady.execute found with ⟨outcome, -⟩
  have warmups : entry.2.settings.warmups.toNat ≠ 0 := by
    intro none
    exact canHost.warmups entry.2 inRuns (UInt32.toNat_inj.mp none)
  rcases Nat.exists_eq_succ_of_ne_zero warmups with ⟨count, succ⟩
  have warm := serves.warmUp canHost fresh member steady count
  rw [← Nat.succ_eq_add_one, ← succ] at warm
  rcases warm.1.measure canHost fresh member steady warm.2 entry.2.settings.iterations.toNat with
    ⟨servesMeasured, -, texts⟩
  -- The host puts the samples together as a whole run would have left them.
  have samples : ", ".intercalate (host.measure executor entry.1
      entry.2.settings.iterations.toNat (host.warmUp executor entry.1
        entry.2.settings.warmups.toNat hosting)).2 = Samples.text steady.samples := by
    rw [texts, Samples.text, PlannedRun.IsSteady.samples, List.map_replicate]
  rcases servesMeasured.write canHost (by simp) member
    (by simp [scratch] : host.samplesFile entry.1 ∈ host.scratch entry.1)
    (Samples.text steady.samples) with ⟨servesWritten, reads⟩
  have readable := PlannedRun.read_samplesText (canHost.iterations entry.2 inRuns) outcome
  have does : executor.Does _ _ [] (none : Option (String × String)).toList _ :=
    Executor.does_endRun (servesWritten.loaded canHost member) reads readable.2
  have ended := (servesWritten.step canHost fresh member does (by simp) (by
    rw [List.nil_append, List.forall_mem_singleton]
    trivial)).1
  have told : calls ++ entry.2.calls executor.name entry.2.execute =
      calls ++ (entry.2.startCall executor.name ::
        steady.warmUpCalls executor.name entry.2.settings.warmups.toNat) ++
          steady.measureCalls executor.name entry.2.settings.iterations.toNat ++
            ([] ++ [entry.2.successCall executor.name steady.samples]) := by
    rw [steady.calls found]
    simp
  rw [told, PlannedRun.resultLine?_of_ok outcome, ← samples]
  rw [← samples] at ended
  exact ⟨ended, rfl⟩

/-- So do the steps of all runs, one run after the other. -/
theorem Serves.executeRuns (serves : host.Serves executor format calls hosting)
    (canHost : host.CanHost executor files) (fresh : executor.reporter = .create format)
    {described : List (String × PlannedRun)}
    (members : ∀ entry ∈ described, entry ∈ executor.described host.directory) :
    let executed := host.executeRuns executor hosting described
    host.Serves executor format
        (calls ++ PlannedRun.allCalls executor.name (described.map Prod.snd)) executed.1 ∧
      executed.2 = PlannedRun.resultLines described := by
  induction described using List.reverseRecOn with
  | nil =>
      refine ⟨?_, rfl⟩
      rw [List.map_nil, PlannedRun.allCalls, List.flatMap_nil, List.append_nil]
      exact serves
  | append_singleton described entry ih =>
      rcases ih (fun other member => members other (by simp [member])) with ⟨servesEarlier, lines⟩
      rcases servesEarlier.executeRun canHost fresh (members entry (by simp)) with
        ⟨servesNext, line⟩
      have told : PlannedRun.allCalls executor.name ((described ++ [entry]).map Prod.snd) =
          PlannedRun.allCalls executor.name (described.map Prod.snd) ++
            entry.2.calls executor.name entry.2.execute := by
        simp [PlannedRun.allCalls]
      have left : PlannedRun.resultLines (described ++ [entry]) =
          PlannedRun.resultLines described ++ [(host.executeRun executor
            (host.executeRuns executor hosting described).1 entry.1 entry.2.settings).2] := by
        simp [PlannedRun.resultLines, line]
      rw [told, ← List.append_assoc, left, ← lines, IterationHost.executeRuns,
        List.foldl_append]
      exact ⟨servesNext, rfl⟩

end Steps

section Hosts

/-- If the selection is right, the steps tell and report what one process tells and reports. -/
theorem CanHost.agreesWith_of_selected (canHost : host.CanHost executor files)
    (fresh : executor.reporter = .create format) (unused : executor.results = [])
    {runs : List PlannedRun}
    (selected : selectRuns executor.suites executor.configuration = .ok runs) :
    (host.execute executor files).AgreesWith executor files := by
  rcases canHost.descriptors with ⟨members, distinct⟩
  rcases Hosting.stands_list canHost.toCanSpread fresh selected progress_mem members distinct with
    ⟨standsListed, loaded, -⟩
  have listed : host.Serves executor format [.startSuite executor.name]
      ((Hosting.start files).step executor host.progressFile (.list host.directory)) :=
    ⟨standsListed, loaded⟩
  rcases listed.executeRuns canHost fresh fun entry member => member with ⟨executed, lines⟩
  rw [Executor.map_snd_described] at executed
  rw [execute, lines]
  have elsewhere := ne_of_notMem_lasting canHost.results
  apply executed.stands.agreesWith_of_store canHost.toCanSpread fresh selected progress_mem unused
  case resultsMember => simp [paths]
  case reportMember => simp [paths]
  case elsewhere => exact elsewhere.1
  case members =>
    intro entry member
    exact ⟨runFile_mem member, elsewhere.2 entry member⟩
  case left => exact executed.described

/-- An execution that is spread over its iterations cannot be told from an execution in one
process, if nothing fails and time depends on the size of a block alone. -/
theorem execute_agrees_of_steady (fresh : executor.reporter = .create format)
    (unused : executor.results = []) (canHost : host.CanHost executor files) :
    (host.execute executor files).AgreesWith executor files := by
  cases selected : selectRuns executor.suites executor.configuration with
  | error error =>
      have none : executor.described host.directory = [] := by
        rw [Executor.described, Executor.runs, selected]
        rfl
      have whole : host.execute executor files = ⟨files, [], .error error⟩ := by
        rw [execute, none]
        simp only [executeRuns, List.foldl_nil,
          Hosting.step_list_refused selected canHost.absent host.directory]
        rw [Hosting.write_of_error rfl, Hosting.step_of_error rfl]
      rw [whole]
      exact Hosting.agreesWith_of_refused selected
  | ok runs => exact canHost.agreesWith_of_selected fresh unused selected

end Hosts

end IterationHost

namespace Demonstration

/-- A benchmark whose invocations take five milliseconds each. -/
def tick : Benchmark where
  name := "tick"
  shape := .plain
  invocation _ _ := ⟨0, none⟩
  elapsed _ _ cycles := .ofNat (5000000 * cycles)

/-- A suite where nothing fails, and time depends on the size of a block alone. -/
def ticking : Suite := ((Suite.create "demo.Ticking").declare "size" ["small", "large"]).add tick

/-- An executor of this suite. -/
def tickingExecutor : Executor := .create configuration [ticking]

/-- A host that uses the same files for each run. -/
def iterationHost : IterationHost :=
  ⟨"cursor", "", fun _ => "cycles", fun _ => "sample", fun _ => "samples", "results"⟩

theorem runFiles_ticking :
    tickingExecutor.runFiles "" = ["demo.Ticking_tick_0.json", "demo.Ticking_tick_1.json"] := by
  rw [Executor.runFiles_here]
  decide

theorem isSteady_ticking : ∀ run ∈ tickingExecutor.runs, run.IsSteady := by
  intro run member
  have planned := Executor.planned_mem_benchmarks member
  have single : tickingExecutor.benchmarks = [⟨ticking, 0, tick⟩] := rfl
  rw [single, List.mem_singleton] at planned
  constructor
  all_goals
    rw [planned]
    intros
    rfl

theorem canHost_iterationHost : iterationHost.CanHost tickingExecutor .empty := by
  have paths : iterationHost.paths tickingExecutor =
      ["report.json", "cursor", "results", "demo.Ticking_tick_0.json",
        "demo.Ticking_tick_1.json", "cycles", "sample", "samples", "cycles", "sample",
        "samples"] := by
    rw [IterationHost.paths]
    simp only [iterationHost, runFiles_ticking]
    rfl
  have fileNames : ∀ path ∈ iterationHost.paths tickingExecutor, Route.IsFileName path := by
    rw [paths]
    simp only [List.forall_mem_cons, List.not_mem_nil, false_implies, implies_true, and_true]
    refine ⟨?_, ?_, ?_, ?_, ?_, ?_, ?_, ?_, ?_, ?_, ?_⟩ <;>
      exact ⟨by simp [Route.isName, Route.nameLimit]; decide, by decide, by decide⟩
  have place (path : String) (member : path ∈ iterationHost.paths tickingExecutor) :
      Route.placeOf path = path :=
    placeOf_root (fileNames path member)
  rw [paths] at place
  have lasting : iterationHost.lasting tickingExecutor =
      ["cursor", "demo.Ticking_tick_0.json", "demo.Ticking_tick_1.json"] := by
    rw [IterationHost.lasting]
    simp only [iterationHost, runFiles_ticking]
    simp [place]
  have scratch (runFile : String) : (iterationHost.scratch runFile).map Route.placeOf =
      ["cycles", "sample", "samples"] := by
    simp [IterationHost.scratch, iterationHost, place]
  have noPathBreaks : ∀ runFile ∈ tickingExecutor.runFiles iterationHost.directory,
      Text.HasNoBreaks runFile := by
    change ∀ runFile ∈ tickingExecutor.runFiles "", Text.HasNoBreaks runFile
    rw [runFiles_ticking]
    decide
  constructor
  case toCanSpread =>
    refine Executor.canSpread_empty fileNames ?_ ?_ ?_ ?_ ?_ noPathBreaks ?_
    · exact IterationHost.progress_mem
    · simp [IterationHost.paths]
    · decide
    · decide
    · decide
    · decide
  case warmups => decide
  case steady => exact isSteady_ticking
  case distinct =>
    rw [lasting]
    decide
  case scratch =>
    intro runFile _
    rw [lasting, scratch]
    refine ⟨by decide, ?_⟩
    intro file member
    have inScratch : Route.placeOf file ∈ (iterationHost.scratch runFile).map Route.placeOf :=
      List.mem_map_of_mem member
    rw [scratch] at inScratch
    revert inScratch
    generalize Route.placeOf file = place
    decide +revert
  case results =>
    rw [lasting]
    change Route.placeOf "results" ∉ _
    rw [place "results" (by simp)]
    decide

/-- The demonstration can be spread over its iterations. -/
theorem execute_agrees_ticking :
    tickingExecutor.reporter = .create .xml ∧ tickingExecutor.results = [] ∧
      iterationHost.CanHost tickingExecutor .empty ∧
      (iterationHost.execute tickingExecutor .empty).AgreesWith tickingExecutor .empty :=
  ⟨rfl, rfl, canHost_iterationHost,
    @IterationHost.execute_agrees_of_steady _ _ iterationHost tickingExecutor .empty .xml rfl rfl
      canHost_iterationHost⟩

end Demonstration

end Microbench
