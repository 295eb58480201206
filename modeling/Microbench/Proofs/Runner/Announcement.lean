import Mathlib.Data.List.Forall2
import Microbench.Proofs.Runner.IterationByIteration

/-!
# Announcements

When an execution is spread over its iterations, the start of a run is told by one step alone: the
first one before the measured iterations. A configuration may ask for no such iterations, and then
nobody tells that the run starts, although its output and its end are told as ever.

So the runs that are announced are those with an iteration before the measured ones. This does not
depend on what the code under measurement does, nor on what the host makes of the samples; it only
takes files in which each step finds its run.
-/

namespace Microbench

namespace ReporterCall

def isStart : ReporterCall → Bool
  | startBenchmark .. => true
  | _ => false

end ReporterCall

namespace PlannedRun

/-- The run is started by the first of some calls, and by no other. -/
def IsAnnounced (run : PlannedRun) (name : String) (calls : List ReporterCall) : Prop :=
  ∃ later, calls = run.startCall name :: later ∧ ∀ call ∈ later, call.isStart = false

/-- Calls about the run that do not start it. -/
def IsToldBy (run : PlannedRun) (calls : List ReporterCall) : Prop :=
  ∀ call ∈ calls, call.run? = some run.id ∧ call.isStart = false

variable {run : PlannedRun}

theorem IsToldBy.of_id {other : PlannedRun} {calls : List ReporterCall}
    (told : other.IsToldBy calls) (same : other.id = run.id) : run.IsToldBy calls := by
  intro call member
  rw [← same]
  exact told call member

theorem isToldBy_nil : run.IsToldBy [] := by simp [IsToldBy]

theorem IsToldBy.append {earlier later : List ReporterCall} (toldEarlier : run.IsToldBy earlier)
    (toldLater : run.IsToldBy later) : run.IsToldBy (earlier ++ later) := by
  intro call member
  rcases List.mem_append.mp member with inEarlier | inLater
  · exact toldEarlier call inEarlier
  · exact toldLater call inLater

theorem isToldBy_outputCalls (name : String) (lines : List String) :
    run.IsToldBy (run.outputCalls name lines) := by
  intro call member
  rcases List.mem_map.mp member with ⟨line, -, rfl⟩
  exact ⟨rfl, rfl⟩

/-- Calls that do not start a run announce it exactly with the start before them. -/
theorem isAnnounced_iff {name : String} {later : List ReporterCall} (told : run.IsToldBy later)
    (started : Prop) [Decidable started] :
    run.IsAnnounced name ((if started then [run.startCall name] else []) ++ later) ↔ started := by
  constructor
  · rintro ⟨others, shape, -⟩
    by_contra notStarted
    rw [if_neg notStarted, List.nil_append] at shape
    have first := (told (run.startCall name) (by simp [shape])).2
    cases first
  · intro holds
    refine ⟨later, by simp [holds], ?_⟩
    intro call member
    exact (told call member).2

end PlannedRun

/-- What is left of a single iteration. -/
def numberText {α : Type} (text : α → String) : Except Failure α → String
  | .ok value => text value
  | .error _ => nullText

namespace Executor

variable [WorkingDirectory]

/-- A number that was measured is left, or the word for none after the run's failure is told. -/
theorem tells_leave {α : Type} (executor : Executor) (run : PlannedRun) (text : α → String)
    (resultFile : String) (outcome : Except Failure α) :
    ∃ told, run.IsToldBy told ∧ ∀ space,
      (executor.leave run text resultFile outcome).Enacts space
        (told.map .report ++ [.save resultFile (numberText text outcome)]) := by
  have enacts := executor.enacts_leave run text resultFile outcome
  cases outcome with
  | ok value => exact ⟨[], PlannedRun.isToldBy_nil, enacts⟩
  | error failure =>
      refine ⟨[run.failureCall executor.name failure], ?_, enacts⟩
      intro call member
      rw [List.mem_singleton.mp member]
      exact ⟨rfl, rfl⟩

section Cursor

variable {holds : ReporterCall → Prop}

/-- Going on from the cursor tells nothing, and neither does leaving it. -/
theorem tellsOnly_resume (progressFile : String) : (resume progressFile).TellsOnly holds := by
  apply Procedure.TellsOnly.of_silent
  intro space
  rcases perform_resume progressFile space with ⟨looked, resumed⟩
  rw [resumed]
  split
  · exact space.calls_look looked
  · exact space.calls_look looked

theorem tellsOnly_leaveCursor (progressFile : String) :
    (leaveCursor progressFile).TellsOnly holds := by
  refine .bind (.of_silent fun space => rfl) fun space => ?_
  cases space.reporter.cursor? with
  | none => exact .of_silent fun space => rfl
  | some cursor => exact .save _ _

end Cursor

variable [PatternLanguage]

/-- What the reporter is told by a step. -/
def told (executor : Executor) (files : FileStore) (request : StepRequest) : List ReporterCall :=
  (executor.step files request).calls

/-- A step is wrong about its input, whatever the reporter is, and does nothing. -/
def Refuses (executor : Executor) (files : FileStore) (step : Step) : Prop :=
  ∀ space : Workspace, space.files = files → ∃ error after,
    (executor.take step).perform space = (.error error, after) ∧ after.files = files ∧
      after.HasHeard space []

variable {executor : Executor} {files : FileStore} {run : PlannedRun}

theorem Does.told {next : Step} {first last : List ReporterCall} {saves : List (String × String)}
    (does : executor.Does files next first saves last) {progressFile : String}
    {paths : List String} (admits : files.Admits paths) (progressMember : progressFile ∈ paths)
    (members : ∀ save ∈ saves, save.1 ∈ paths)
    (distinct : (saves.map fun save => Route.placeOf save.1).Nodup) :
    executor.told files ⟨progressFile, next⟩ = first ++ last ∧
      ∃ reporter, (executor.step files ⟨progressFile, next⟩).IsComplete files progressFile paths
        reporter (first ++ last) saves := by
  rcases exists_loadReporter executor.reporter admits progressMember with ⟨reporter, resumed⟩
  have complete := does.isComplete resumed admits progressMember members distinct
  exact ⟨complete.told, reporter, complete⟩

/-- A descriptor is loaded as a run with the same identifier, even if benchmarks share a name. -/
theorem loadRun_id (member : run ∈ executor.runs) {path : String}
    (reads : files.read? path = some run.descriptor.text) :
    ∃ loaded, executor.loadRun files path = .ok loaded ∧ loaded.id = run.id := by
  have inBenchmarks := planned_mem_benchmarks member
  rw [benchmarks] at inBenchmarks
  cases selected : selectBenchmarks executor.suites executor.configuration with
  | error error =>
      rw [selected] at inBenchmarks
      cases inBenchmarks
  | ok planned =>
      rw [selected, Except.toOption, Option.getD_some] at inBenchmarks
      -- The benchmark that is found may be an earlier one, but it has the same name.
      have present : (planned.find? fun other => other.qualifiedName = run.name).isSome := by
        rw [List.find?_isSome]
        exact ⟨run.planned, inBenchmarks, by simp [PlannedRun.name]⟩
      rcases Option.isSome_iff_exists.mp present with ⟨found, first⟩
      have sameName : found.qualifiedName = run.name := by simpa using List.find?_some first
      refine ⟨⟨found, run.parameters, run.settings⟩, ?_, ?_⟩
      · have described : run.descriptor.benchmark = run.name := rfl
        simp only [loadRun, runOf, FileStore.read, reads, bind, Except.bind,
          RunDescriptor.ofText?_text, selected, described, first]
        rfl
      · simp [PlannedRun.id, PlannedRun.name, sameName]

section Loaded

variable {runFile : String} (loaded : executor.loadRun files runFile = .ok run)

include loaded

theorem tells_warmUp (index : Nat) (resultFile : String) :
    ∃ later, run.IsToldBy later ∧
      executor.Does files (.warmUp runFile index resultFile)
        ((if index = 0 then [run.startCall executor.name] else []) ++ later)
        [(resultFile, numberText (fun cycles => toString cycles.toNat)
          (run.warmUp index).outcome)] [] := by
  rcases executor.tells_leave run (fun cycles : UInt64 => toString cycles.toNat) resultFile
    (run.warmUp index).outcome with ⟨ending, toldEnding, enacts⟩
  have output := @PlannedRun.isToldBy_outputCalls run executor.name (run.warmUp index).lines
  refine ⟨_, output.append toldEnding, ?_⟩
  intro space here unused
  rw [take, warmUp, List.map_append, List.map_append, List.append_assoc, List.append_assoc,
    List.append_assoc]
  refine enacts_of_loaded loaded here (.tellAll_then (.run_then ?_))
  exact enacts _

theorem tells_counted {cyclesFile : String} {cycles : UInt64}
    (counted : loadCycles files cyclesFile = .ok cycles) (index : Nat) (resultFile : String) :
    ∃ told, run.IsToldBy told ∧
      executor.Does files (.measure runFile index cyclesFile resultFile) told
        [(resultFile, numberText Samples.sampleText (run.measure index cycles).outcome)] [] := by
  rcases executor.tells_leave run Samples.sampleText resultFile
    (run.measure index cycles).outcome with ⟨ending, toldEnding, enacts⟩
  have output := @PlannedRun.isToldBy_outputCalls run executor.name
    (run.measure index cycles).lines
  refine ⟨_, output.append toldEnding, ?_⟩
  intro space here unused
  have same : (space.look [runFile]).files = files := here
  rw [take, measure, List.map_append, List.append_assoc, List.append_assoc]
  refine enacts_of_loaded loaded here (enacts_of_counted counted same fun looked => ?_)
  exact .run_then (enacts _)

/-- A measured step tells of its run, unless the count of invocations cannot be read. -/
theorem tells_measure (index : Nat) (cyclesFile resultFile : String) :
    executor.Refuses files (.measure runFile index cyclesFile resultFile) ∨
      ∃ told saved, run.IsToldBy told ∧
        executor.Does files (.measure runFile index cyclesFile resultFile) told
          [(resultFile, saved)] [] := by
  cases counted : loadCycles files cyclesFile with
  | error error =>
      left
      intro space here
      have fetched := executor.perform_fetchRun runFile space
      rcases perform_fetchCycles cyclesFile (space.look [runFile]) with ⟨looked, failed⟩
      have same : (space.look [runFile]).files = files := here
      rw [here, loaded] at fetched
      rw [same, counted] at failed
      refine ⟨error, (space.look [runFile]).look looked, ?_, here, ?_⟩
      · rw [take, measure, Procedure.perform_bind, fetched]
        simp only [Procedure.perform_bind, failed]
      · exact (space.hasHeard_look [runFile]).trans (Workspace.hasHeard_look _ looked)
  | ok cycles =>
      right
      rcases tells_counted loaded counted index resultFile with ⟨told, isTold, does⟩
      exact ⟨told, _, isTold, does⟩

theorem tells_endRun (samplesFile : String) :
    executor.Refuses files (.endRun runFile samplesFile) ∨
      ∃ told, run.IsToldBy told ∧
        executor.Does files (.endRun runFile samplesFile) told [] [] := by
  cases taken : loadSamples files samplesFile with
  | error error =>
      left
      intro space here
      have fetched := perform_fetchSamples samplesFile space
      rw [here, taken] at fetched
      refine ⟨error, space.look [samplesFile], ?_, here, space.hasHeard_look [samplesFile]⟩
      rw [take, endRun, Procedure.perform_bind, fetched]
  | ok samples =>
      right
      refine ⟨[run.successCall executor.name samples], ?_, ?_⟩
      · intro call member
        rw [List.mem_singleton.mp member]
        exact ⟨rfl, rfl⟩
      · intro space here unused
        have same : (space.look [samplesFile]).files = files := here
        rw [take, endRun]
        refine enacts_of_sampled taken here (enacts_of_loaded loaded same ?_)
        exact .tell _ _

end Loaded

theorem tellsOnly_storeResults (executor : Executor) (resultsFile : String) :
    (executor.storeResults resultsFile).TellsOnly fun call => call.run? = none := by
  have reads : (Procedure.read resultsFile).TellsOnly fun call => call.run? = none :=
    .of_silent fun space => space.calls_look [resultsFile]
  have fetches (lines : List (List Char)) :
      (executor.fetchResults resultsFile lines).TellsOnly fun call => call.run? = none := by
    apply Procedure.TellsOnly.of_silent
    intro space
    rcases executor.perform_fetchResults resultsFile lines space with ⟨looked, fetched⟩
    rw [fetched]
    exact space.calls_look looked
  have completes : executor.complete.TellsOnly fun call => call.run? = none :=
    .bind (.of_silent fun space => rfl) fun space => .bind (.tell rfl) fun _ => .save _ _
  exact reads.bind fun text => (fetches (resultLines text)).bind fun _ => completes

/-- The last step tells of no run. -/
theorem told_storeResults (executor : Executor) (files : FileStore)
    (progressFile resultsFile : String) :
    ∀ call ∈ executor.told files ⟨progressFile, .storeResults resultsFile⟩, call.run? = none := by
  have whole := (tellsOnly_resume progressFile).bind fun _ =>
    (executor.tellsOnly_storeResults resultsFile).bind fun _ => tellsOnly_leaveCursor progressFile
  rcases whole (executor.workspace files) with ⟨calls, told, held⟩
  intro call member
  have inCalls : call ∈ (executor.workspace files).calls ++ calls := by
    rw [← told]
    exact member
  exact held call inCalls

end Executor

/-- One thing that a host does: it takes a step, or it writes a file of its own. -/
inductive Deed where
  | take (step : Step)
  | write (path text : String)

namespace Executor

variable [PatternLanguage] [WorkingDirectory]

/-- The files after a deed, and what the reporter is told by it. A step that goes wrong does not
keep the host from going on. -/
def act (executor : Executor) (progressFile : String) (files : FileStore) :
    Deed → FileStore × List ReporterCall
  | .take step =>
    ((executor.step files ⟨progressFile, step⟩).files,
      executor.told files ⟨progressFile, step⟩)
  | .write path text => ((files.write? path text).getD files, [])

/-- The files after deeds, and all that is told by them. -/
def actAll (executor : Executor) (progressFile : String) (files : FileStore) :
    List Deed → FileStore × List ReporterCall
  | [] => (files, [])
  | deed :: deeds =>
    let (between, told) := executor.act progressFile files deed
    let (later, others) := executor.actAll progressFile between deeds
    (later, told ++ others)

theorem actAll_cons (executor : Executor) (progressFile : String) (files : FileStore)
    (deed : Deed) (deeds : List Deed) :
    executor.actAll progressFile files (deed :: deeds) =
      ((executor.actAll progressFile (executor.act progressFile files deed).1 deeds).1,
        (executor.act progressFile files deed).2 ++
          (executor.actAll progressFile (executor.act progressFile files deed).1 deeds).2) :=
  rfl

end Executor

namespace IterationHost

/-- What is told by the steps of an execution: before the runs, of each run, and after the runs. -/
structure Tale where
  opening : List ReporterCall
  runs : List (List ReporterCall)
  closing : List ReporterCall

/-- The deeds of the host for a run: the steps, and the samples that it puts together for the last
one. -/
def deeds (host : IterationHost) (runFile : String) (settings : Settings) (samples : String) :
    List Deed :=
  (List.range settings.warmups.toNat).map
      (fun index => .take (.warmUp runFile index (host.cyclesFile runFile))) ++
    (List.range settings.iterations.toNat).map
      (fun index =>
        .take (.measure runFile index (host.cyclesFile runFile) (host.sampleFile runFile))) ++
    [.write (host.samplesFile runFile) samples,
      .take (.endRun runFile (host.samplesFile runFile))]

/-- A deed for a run that does not start it. -/
inductive GoesOn (host : IterationHost) (runFile : String) : Deed → Prop where
  | warmUp (index : Nat) (later : index ≠ 0) :
    GoesOn host runFile (.take (.warmUp runFile index (host.cyclesFile runFile)))
  | measure (index : Nat) :
    GoesOn host runFile
      (.take (.measure runFile index (host.cyclesFile runFile) (host.sampleFile runFile)))
  | write (samples : String) : GoesOn host runFile (.write (host.samplesFile runFile) samples)
  | endRun : GoesOn host runFile (.take (.endRun runFile (host.samplesFile runFile)))

/-- The first deed for a run comes before the measured iterations, if there is a deed before
them. -/
theorem deeds_eq (host : IterationHost) (runFile : String) (settings : Settings)
    (samples : String) :
    ∃ later, (∀ deed ∈ later, host.GoesOn runFile deed) ∧
      host.deeds runFile settings samples =
        (if settings.warmups ≠ 0 then
          [.take (.warmUp runFile 0 (host.cyclesFile runFile))] else []) ++ later := by
  have measured : ∀ deed ∈ (List.range settings.iterations.toNat).map
      (fun index => Deed.take
        (.measure runFile index (host.cyclesFile runFile) (host.sampleFile runFile))),
      host.GoesOn runFile deed := by
    intro deed member
    rcases List.mem_map.mp member with ⟨index, -, rfl⟩
    exact .measure index
  have ended : ∀ deed ∈ [Deed.write (host.samplesFile runFile) samples,
      .take (.endRun runFile (host.samplesFile runFile))], host.GoesOn runFile deed := by
    simp only [List.forall_mem_cons, List.not_mem_nil, false_implies, implies_true, and_true]
    exact ⟨.write samples, .endRun⟩
  cases count : settings.warmups.toNat with
  | zero =>
      have none : settings.warmups = 0 := UInt32.toNat_inj.mp count
      refine ⟨_, List.forall_mem_append.mpr ⟨measured, ended⟩, ?_⟩
      simp [deeds, none]
  | succ count' =>
      have some : settings.warmups ≠ 0 := by
        intro none
        simp [none] at count
      have warmed : ∀ deed ∈ (List.range count').map
          (fun index => Deed.take
            (.warmUp runFile (index + 1) (host.cyclesFile runFile))),
          host.GoesOn runFile deed := by
        intro deed member
        rcases List.mem_map.mp member with ⟨index, -, rfl⟩
        exact .warmUp (index + 1) (by simp)
      refine ⟨_, List.forall_mem_append.mpr
        ⟨List.forall_mem_append.mpr ⟨warmed, measured⟩, ended⟩, ?_⟩
      simp [deeds, some, count, List.range_succ_eq_map, Function.comp_def]

variable [PatternLanguage] [WorkingDirectory]

/-- The files after the deeds for runs, and what is told of each of them; the texts of the samples
are given by the file of the run's descriptor. -/
def tell (host : IterationHost) (executor : Executor) (samples : String → String)
    (files : FileStore) : List (String × PlannedRun) → FileStore × List (List ReporterCall)
  | [] => (files, [])
  | entry :: described =>
    let (between, told) := executor.actAll host.progressFile files
      (host.deeds entry.1 entry.2.settings (samples entry.1))
    let (later, others) := host.tell executor samples between described
    (later, told :: others)

/-- All that is told by an execution, whatever the host makes of the samples. -/
def tale (host : IterationHost) (executor : Executor) (files : FileStore)
    (samples : String → String) (results : String) : Tale :=
  let (listed, opening) := executor.act host.progressFile files (.take (.list host.directory))
  let (executed, runs) := host.tell executor samples listed (executor.described host.directory)
  let (_, closing) := executor.actAll host.progressFile executed
    [.write host.resultsFile results, .take (.storeResults host.resultsFile)]
  ⟨opening, runs, closing⟩

/-- Each step of the host finds its run: the files of the host can be written, and nothing is
written over a descriptor or the cursor. -/
structure CanFind (host : IterationHost) (executor : Executor) (files : FileStore) : Prop where
  admits : files.Admits (host.paths executor)
  distinct : (host.lasting executor).Nodup
  scratch : ∀ runFile ∈ executor.runFiles host.directory,
    ∀ file ∈ host.scratch runFile, Route.placeOf file ∉ host.lasting executor

/-- The descriptors are there, and the files of the host can be written. -/
structure IsListed (host : IterationHost) (executor : Executor) (files : FileStore) : Prop where
  admits : files.Admits (host.paths executor)
  described : ∀ entry ∈ executor.described host.directory,
    files.read? entry.1 = some entry.2.descriptor.text

variable {host : IterationHost} {executor : Executor} {files : FileStore}
  {entry : String × PlannedRun}

theorem CanHost.canFind (canHost : host.CanHost executor files) :
    host.CanFind executor files where
  admits := canHost.admits
  distinct := canHost.distinct
  scratch runFile member := (canHost.scratch runFile member).2

section Deeds

variable {before : FileStore}

theorem act_of_refuses {progressFile : String} {paths : List String} {next : Step}
    (refuses : executor.Refuses files next) (admits : files.Admits paths)
    (member : progressFile ∈ paths) :
    executor.act progressFile files (.take next) = (files, []) := by
  rcases Executor.exists_loadReporter executor.reporter admits member with ⟨reporter, resumed⟩
  rcases Executor.step_of_resumed resumed next with ⟨looked, stepped⟩
  rcases refuses (((executor.workspace files).look looked).withReporter reporter) rfl with
    ⟨error, after, refused, same, silent⟩
  rw [Procedure.perform_bind, refused] at stepped
  have looks := (executor.workspace files).hasHeard_look looked
  have told : executor.told files ⟨progressFile, next⟩ = [] := by
    rw [Executor.told, stepped]
    exact silent.calls.trans (congrArg (· ++ []) looks.calls)
  rw [Executor.act, told, stepped]
  exact congrArg (·, []) same

/-- A step for a run keeps the descriptors if it saves nothing but the run's own files. -/
theorem IsListed.take (listed : host.IsListed executor files)
    (canFind : host.CanFind executor before) (member : entry ∈ executor.described host.directory)
    {next : Step} {first last : List ReporterCall} {saves : List (String × String)}
    (does : executor.Does files next first saves last)
    (saved : ∀ save ∈ saves, save.1 ∈ host.scratch entry.1)
    (distinct : (saves.map fun save => Route.placeOf save.1).Nodup) :
    let acted := executor.act host.progressFile files (.take next)
    acted.2 = first ++ last ∧ host.IsListed executor acted.1 := by
  intro acted
  have inPaths : ∀ save ∈ saves, save.1 ∈ host.paths executor := by
    intro save inSaves
    exact scratch_mem member (saved save inSaves)
  rcases does.told listed.admits progress_mem inPaths distinct with ⟨told, reporter, complete⟩
  refine ⟨told, complete.admits, ?_⟩
  intro other otherMember
  have kept := complete.keeps other.1 (runFile_mem otherMember)
    ((descriptors_of_lasting canFind.distinct).1 other otherMember).2 (by
      intro save inSaves
      have notLasting := canFind.scratch entry.1 (List.mem_map_of_mem member) save.1
        (saved save inSaves)
      exact (ne_of_notMem_lasting notLasting).2 other otherMember)
  exact kept.reads _ (listed.described other otherMember)

theorem IsListed.write (listed : host.IsListed executor files)
    (canFind : host.CanFind executor before) (member : entry ∈ executor.described host.directory)
    {file : String} (inScratch : file ∈ host.scratch entry.1) (text : String) :
    host.IsListed executor (executor.act host.progressFile files (.write file text)).1 := by
  have inPaths : file ∈ host.paths executor := scratch_mem member inScratch
  rcases listed.admits.write? inPaths text with ⟨later, written⟩
  simp only [Executor.act, written, Option.getD_some]
  refine ⟨listed.admits.after inPaths written, ?_⟩
  intro other otherMember
  have notLasting := canFind.scratch entry.1 (List.mem_map_of_mem member) file inScratch
  have elsewhere := (ne_of_notMem_lasting notLasting).2 other otherMember
  have keeps := listed.admits.keeps inPaths written (runFile_mem otherMember) elsewhere
  exact keeps.reads _ (listed.described other otherMember)

theorem IsListed.loaded (listed : host.IsListed executor files)
    (member : entry ∈ executor.described host.directory) :
    ∃ run, executor.loadRun files entry.1 = .ok run ∧ run.id = entry.2.id :=
  Executor.loadRun_id (Executor.mem_runs_of_described member) (listed.described entry member)

theorem IsListed.begin (listed : host.IsListed executor files)
    (canFind : host.CanFind executor before)
    (member : entry ∈ executor.described host.directory) :
    let acted := executor.act host.progressFile files
      (.take (.warmUp entry.1 0 (host.cyclesFile entry.1)))
    (∃ later, entry.2.IsToldBy later ∧
      acted.2 = entry.2.startCall executor.name :: later) ∧
      host.IsListed executor acted.1 := by
  rcases listed.loaded member with ⟨run, loaded, same⟩
  rcases Executor.tells_warmUp loaded 0 (host.cyclesFile entry.1) with
    ⟨later, told, does⟩
  rcases listed.take canFind member does (by simp [scratch]) (by simp) with
    ⟨calls, listedAfter⟩
  have start : run.startCall executor.name = entry.2.startCall executor.name := by
    simp only [PlannedRun.startCall, same]
  refine ⟨⟨later, told.of_id same, ?_⟩, listedAfter⟩
  rw [calls, start]
  simp

/-- Each other deed for a run tells of the run without starting it. -/
theorem IsListed.goOn (listed : host.IsListed executor files)
    (canFind : host.CanFind executor before) (member : entry ∈ executor.described host.directory)
    {deed : Deed} (goesOn : host.GoesOn entry.1 deed) :
    let acted := executor.act host.progressFile files deed
    entry.2.IsToldBy acted.2 ∧ host.IsListed executor acted.1 := by
  intro acted
  rcases listed.loaded member with ⟨run, loaded, same⟩
  have refused {next : Step} (refuses : executor.Refuses files next) :
      entry.2.IsToldBy (executor.act host.progressFile files (.take next)).2 ∧
        host.IsListed executor (executor.act host.progressFile files (.take next)).1 := by
    rw [act_of_refuses refuses listed.admits progress_mem]
    exact ⟨PlannedRun.isToldBy_nil, listed⟩
  cases goesOn with
  | warmUp index later =>
      rcases Executor.tells_warmUp loaded index (host.cyclesFile entry.1) with
        ⟨calls, told, does⟩
      rw [if_neg later, List.nil_append] at does
      rcases listed.take canFind member does (by simp [scratch]) (by simp) with
        ⟨shape, listedAfter⟩
      refine ⟨?_, listedAfter⟩
      rw [shape, List.append_nil]
      exact told.of_id same
  | measure index =>
      rcases Executor.tells_measure loaded index (host.cyclesFile entry.1)
        (host.sampleFile entry.1) with refuses | ⟨calls, saved, told, does⟩
      · exact refused refuses
      · rcases listed.take canFind member does (by simp [scratch]) (by simp) with
          ⟨shape, listedAfter⟩
        refine ⟨?_, listedAfter⟩
        rw [shape, List.append_nil]
        exact told.of_id same
  | write samples =>
      exact ⟨PlannedRun.isToldBy_nil, listed.write canFind member (by simp [scratch]) samples⟩
  | endRun =>
      rcases Executor.tells_endRun loaded (host.samplesFile entry.1) with
        refuses | ⟨calls, told, does⟩
      · exact refused refuses
      · rcases listed.take canFind member does (by simp) (by simp) with
          ⟨shape, listedAfter⟩
        refine ⟨?_, listedAfter⟩
        rw [shape, List.append_nil]
        exact told.of_id same

theorem IsListed.goOnAll (listed : host.IsListed executor files)
    (canFind : host.CanFind executor before) (member : entry ∈ executor.described host.directory)
    {deeds : List Deed} (goOn : ∀ deed ∈ deeds, host.GoesOn entry.1 deed) :
    let acted := executor.actAll host.progressFile files deeds
    entry.2.IsToldBy acted.2 ∧ host.IsListed executor acted.1 := by
  -- Each deed leaves the descriptors, so the next one finds its run again.
  induction deeds generalizing files with
  | nil => exact ⟨PlannedRun.isToldBy_nil, listed⟩
  | cons deed deeds ih =>
      rcases listed.goOn canFind member (goOn deed (by simp)) with ⟨toldFirst, listedBetween⟩
      rcases ih listedBetween (fun other inDeeds => goOn other (by simp [inDeeds])) with
        ⟨toldLater, listedAfter⟩
      exact ⟨toldFirst.append toldLater, listedAfter⟩

/-- All deeds for a run tell of it; what starts it is an iteration before the measured ones. -/
theorem IsListed.tellsRun (listed : host.IsListed executor files)
    (canFind : host.CanFind executor before) (member : entry ∈ executor.described host.directory)
    (samples : String) :
    let acted := executor.actAll host.progressFile files
      (host.deeds entry.1 entry.2.settings samples)
    (∃ later, entry.2.IsToldBy later ∧ acted.2 =
      (if entry.2.settings.warmups ≠ 0 then [entry.2.startCall executor.name] else []) ++
        later) ∧
      host.IsListed executor acted.1 := by
  rcases host.deeds_eq entry.1 entry.2.settings samples with ⟨others, goOn, deeds⟩
  rw [deeds]
  -- Only the first deed can start the run, and only if it comes before the measured iterations.
  by_cases warm : entry.2.settings.warmups ≠ 0
  · rw [if_pos warm, if_pos warm, List.singleton_append, Executor.actAll_cons]
    rcases listed.begin canFind member with ⟨⟨toldFirst, isTold, shape⟩, listedBetween⟩
    rcases listedBetween.goOnAll canFind member goOn with ⟨toldLater, listedAfter⟩
    refine ⟨⟨_, isTold.append toldLater, ?_⟩, listedAfter⟩
    rw [shape]
    simp
  · rw [if_neg warm, if_neg warm, List.nil_append]
    rcases listed.goOnAll canFind member goOn with ⟨toldLater, listedAfter⟩
    exact ⟨⟨_, toldLater, rfl⟩, listedAfter⟩

theorem CanFind.list (canFind : host.CanFind executor files) :
    let acted := executor.act host.progressFile files (.take (.list host.directory))
    (∀ call ∈ acted.2, call.run? = none) ∧ host.IsListed executor acted.1 := by
  intro acted
  cases selected : selectRuns executor.suites executor.configuration with
  | error error =>
      have refuses : executor.Refuses files (.list host.directory) := by
        intro space here
        refine ⟨error, space, ?_, here, .of_silent rfl rfl rfl⟩
        rw [Executor.take, Executor.listRuns, selected]
        rfl
      have none : executor.described host.directory = [] := by
        rw [Executor.described, Executor.runs, selected]
        rfl
      simp only [acted, act_of_refuses refuses canFind.admits progress_mem]
      refine ⟨by simp, canFind.admits, ?_⟩
      simp [none]
  | ok runs =>
      rcases descriptors_of_lasting canFind.distinct with ⟨apart, distinct⟩
      have does : executor.Does files (.list host.directory) _ _ _ :=
        Executor.does_list selected host.directory
      have inPaths : ∀ save ∈ (executor.described host.directory).map
          fun entry => (entry.1, entry.2.descriptor.text), save.1 ∈ host.paths executor := by
        intro save inSaves
        rcases List.mem_map.mp inSaves with ⟨entry, member, rfl⟩
        exact (apart entry member).1
      rcases does.told canFind.admits progress_mem inPaths (by rwa [List.map_map]) with
        ⟨told, reporter, complete⟩
      refine ⟨?_, complete.admits, ?_⟩
      · simp only [acted, Executor.act, told]
        simp [ReporterCall.run?]
      · intro entry member
        exact complete.saved _ (List.mem_map_of_mem member) (apart entry member).2

theorem IsListed.tell (listed : host.IsListed executor files)
    (canFind : host.CanFind executor before) (samples : String → String)
    {described : List (String × PlannedRun)}
    (members : ∀ entry ∈ described, entry ∈ executor.described host.directory) :
    List.Forall₂
      (fun run calls => ∃ later, run.IsToldBy later ∧ calls =
        (if run.settings.warmups ≠ 0 then [run.startCall executor.name] else []) ++ later)
      (described.map Prod.snd) (host.tell executor samples files described).2 := by
  induction described generalizing files with
  | nil => exact .nil
  | cons entry described ih =>
      rcases listed.tellsRun canFind (members entry (by simp)) (samples entry.1) with
        ⟨told, listedBetween⟩
      apply List.Forall₂.cons
      · exact told
      · exact ih listedBetween fun other member => members other (by simp [member])

end Deeds

/-- What is told of each selected run, after its start if it is announced. -/
theorem CanFind.tale_runs (canFind : host.CanFind executor files) (samples : String → String)
    (results : String) :
    List.Forall₂
      (fun run calls => ∃ later, run.IsToldBy later ∧ calls =
        (if run.settings.warmups ≠ 0 then [run.startCall executor.name] else []) ++ later)
      executor.runs (host.tale executor files samples results).runs := by
  have told := canFind.list.2.tell canFind samples
    fun entry (member : entry ∈ executor.described host.directory) => member
  rw [Executor.map_snd_described] at told
  exact told

/-- If all runs are announced, each has an iteration before the measured ones. -/
theorem CanFind.warmups_of_announced (canFind : host.CanFind executor files)
    {samples : String → String} {results : String}
    (announced : List.Forall₂ (fun run calls => run.IsAnnounced executor.name calls)
      executor.runs (host.tale executor files samples results).runs) :
    ∀ run ∈ executor.runs, run.settings.warmups ≠ 0 := by
  have both : List.Forall₂ (fun run calls =>
      run.settings.warmups ≠ 0 ∧ run.IsAnnounced executor.name calls)
        executor.runs (host.tale executor files samples results).runs := by
    refine List.Forall₂.mp ?_ (canFind.tale_runs samples results) announced
    rintro run calls ⟨later, told, rfl⟩ isAnnounced
    exact ⟨(PlannedRun.isAnnounced_iff told _).mp isAnnounced, isAnnounced⟩
  exact ((List.forall₂_and_left _ _).mp both).1

/-- When an execution is spread over its iterations, calls about a run come from its own steps, and
exactly the runs with an iteration before the measured ones are announced. -/
theorem announced_iff (canFind : host.CanFind executor files) (samples : String → String)
    (results : String) :
    let tale := host.tale executor files samples results
    (∀ call ∈ tale.opening ++ tale.closing, call.run? = none) ∧
      List.Forall₂
        (fun run calls => (∀ call ∈ calls, call.run? = some run.id) ∧
          (run.IsAnnounced executor.name calls ↔ run.settings.warmups ≠ 0))
        executor.runs tale.runs := by
  intro tale
  constructor
  · intro call member
    rcases List.mem_append.mp member with inOpening | inClosing
    · exact canFind.list.1 call inOpening
    · simp only [tale, IterationHost.tale, Executor.actAll, Executor.act, List.nil_append,
        List.append_nil] at inClosing
      exact executor.told_storeResults _ _ _ call inClosing
  · apply (canFind.tale_runs samples results).imp
    rintro run calls ⟨later, told, rfl⟩
    refine ⟨?_, PlannedRun.isAnnounced_iff told _⟩
    intro call member
    rcases List.mem_append.mp member with inStart | inLater
    · split at inStart
      · rw [List.mem_singleton.mp inStart]
        rfl
      · cases inStart
    · exact (told call inLater).1

end IterationHost

namespace Demonstration

/-- What the host makes of the samples of the suite in which nothing fails. -/
def tickingResults : String :=
  "demo.Ticking_tick_0.json: 0.2, 0.2, 0.2\ndemo.Ticking_tick_1.json: 0.2, 0.2, 0.2\n"

/-- With the iterations that suites ask for, the demonstration announces all of its runs. -/
theorem announced_iff_ticking :
    iterationHost.CanFind tickingExecutor .empty ∧
      let tale := iterationHost.tale tickingExecutor .empty (fun _ => "0.2, 0.2, 0.2")
        tickingResults
      (∀ call ∈ tale.opening ++ tale.closing, call.run? = none) ∧
        List.Forall₂
          (fun run calls => (∀ call ∈ calls, call.run? = some run.id) ∧
            (run.IsAnnounced tickingExecutor.name calls ↔ run.settings.warmups ≠ 0))
          tickingExecutor.runs tale.runs :=
  ⟨canHost_iterationHost.canFind,
    IterationHost.announced_iff canHost_iterationHost.canFind (fun _ => "0.2, 0.2, 0.2")
      tickingResults⟩

/-- The configuration of the demonstration, without iterations before the measured ones. -/
def unwarmed : RunnerConfiguration := { configuration with overrides.warmups := some 0 }

def unwarmedExecutor : Executor := .create unwarmed [ticking]

theorem runs_unwarmed :
    unwarmedExecutor.runs =
      tickingExecutor.runs.map fun run => { run with settings.warmups := 0 } :=
  rfl

theorem isSteady_unwarmed : ∀ run ∈ unwarmedExecutor.runs, run.IsSteady := by
  intro run member
  rw [runs_unwarmed] at member
  rcases List.mem_map.mp member with ⟨warmed, inRuns, rfl⟩
  rcases isSteady_ticking warmed inRuns with
    ⟨construct, parametrize, setup, teardown, invocation, elapsed⟩
  exact ⟨construct, parametrize, setup, teardown, invocation, elapsed⟩

theorem canFind_unwarmed : iterationHost.CanFind unwarmedExecutor .empty := by
  have runFiles : unwarmedExecutor.runFiles iterationHost.directory =
      tickingExecutor.runFiles iterationHost.directory := rfl
  have paths : iterationHost.paths unwarmedExecutor = iterationHost.paths tickingExecutor := rfl
  have lasting : iterationHost.lasting unwarmedExecutor =
      iterationHost.lasting tickingExecutor := rfl
  rcases canHost_iterationHost.canFind with ⟨admits, distinct, scratch⟩
  rw [← paths] at admits
  rw [← lasting] at distinct scratch
  rw [← runFiles] at scratch
  exact ⟨admits, distinct, scratch⟩

/-- A configuration may ask for no iterations before the measured ones. Then a run is not announced,
even if nothing fails in it. -/
theorem not_announced_unwarmed :
    RunnerConfiguration.parse "name:demo\nreportFile:report.json\ntraceFormat:xml\nwarmups:0\n" =
        .ok unwarmed ∧
      iterationHost.CanFind unwarmedExecutor .empty ∧
      (∀ run ∈ unwarmedExecutor.runs, run.IsSteady) ∧
      ¬ List.Forall₂ (fun run calls => run.IsAnnounced unwarmedExecutor.name calls)
        unwarmedExecutor.runs
        (iterationHost.tale unwarmedExecutor .empty (fun _ => "0.2, 0.2, 0.2")
          tickingResults).runs := by
  refine ⟨by decide, canFind_unwarmed, isSteady_unwarmed, ?_⟩
  intro announced
  have warmed := canFind_unwarmed.warmups_of_announced announced
  rw [runs_unwarmed] at warmed
  revert warmed
  decide

end Demonstration

end Microbench
