import Mathlib.Data.Set.Card
import Microbench.Proofs.Files.Directory
import Microbench.Proofs.Files.OnePlace
import Microbench.Proofs.Runner.DescriptorNames

/-!
# Descriptors in an empty directory

The first step of an execution describes each run in a file of a directory. If two descriptors have
the same name, the one that is written last is all that is left, and a run is lost without any
error. So nothing is lost exactly when suites and benchmarks, joined by an underscore, can be told
from each other.
-/

namespace Microbench

namespace FileStore

variable [WorkingDirectory]

/-- The places of files. -/
def filePlaces (store : FileStore) : Set String :=
  {place | ∃ text, store.at? place = some (.file text)}

variable {store later : FileStore} {path text : String}

theorem mem_filePlaces_of_read? (reads : store.read? path = some text) :
    Route.placeOf path ∈ store.filePlaces := by
  rcases read?_eq_some reads with ⟨route, found, -, present⟩
  exact ⟨text, by simpa [Route.placeOf, found] using present⟩

theorem filePlaces_write (written : store.write? path text = some later) :
    later.filePlaces ⊆ insert (Route.placeOf path) store.filePlaces := by
  rintro place ⟨kept, present⟩
  rw [at?_write written] at present
  split at present
  · rename_i same
    exact Or.inl same
  · split at present
    · cases present
    · exact Or.inr ⟨kept, present⟩

end FileStore

namespace Effect

variable [WorkingDirectory]

/-- Effects leave files in no places but those that they save to. -/
theorem filePlaces_carryOut (files : FileStore) (effects : List Effect) :
    (carryOut files effects).files.filePlaces ⊆
      files.filePlaces ∪
        {place | ∃ path text, .save path text ∈ effects ∧ place = Route.placeOf path} := by
  induction effects generalizing files with
  | nil => exact Set.subset_union_left
  | cons effect effects ih =>
      intro place member
      cases effect with
      | report call =>
          rcases ih files member with before | ⟨path, text, inEffects, same⟩
          · exact Or.inl before
          · exact Or.inr ⟨path, text, List.mem_cons_of_mem _ inEffects, same⟩
      | save path text =>
          rw [carryOut] at member
          split at member
          · exact Or.inl member
          · rename_i between written
            rcases ih between member with atOnce | ⟨other, otherText, inEffects, same⟩
            · rcases FileStore.filePlaces_write written atOnce with same | before
              · exact Or.inr ⟨path, text, List.mem_cons_self, same⟩
              · exact Or.inl before
            · exact Or.inr ⟨other, otherText, List.mem_cons_of_mem _ inEffects, same⟩

end Effect

namespace Executor

variable [WorkingDirectory]

theorem filePlaces_leaveCursor (progressFile : String) (space : Workspace) :
    ((leaveCursor progressFile).perform space).2.files.filePlaces ⊆
      insert (Route.placeOf progressFile) space.files.filePlaces := by
  rw [perform_leaveCursor]
  split
  · rw [Procedure.perform_save]
    split
    · rename_i written
      exact FileStore.filePlaces_write written
    · exact Set.subset_insert _ _
  · exact Set.subset_insert _ _

variable [PatternLanguage] {executor : Executor} {files : FileStore}
  {progressFile directory : String}

/-- A step leaves files in no places but those of the cursor and of what it saves. -/
theorem filePlaces_step {reporter : Reporter} {next : Step} {first last : List ReporterCall}
    {saves : List (String × String)} (does : executor.Does files next first saves last)
    (resumed : loadReporter executor.reporter files progressFile = .ok reporter) :
    (executor.step files ⟨progressFile, next⟩).files.filePlaces ⊆
      insert (Route.placeOf progressFile)
        (files.filePlaces ∪ {place | ∃ save ∈ saves, place = Route.placeOf save.1}) := by
  rcases step_of_resumed resumed next with ⟨looked, stepped⟩
  have enacts := does (((executor.workspace files).look looked).withReporter reporter) rfl rfl
  have taken : ((executor.take next).perform
      (((executor.workspace files).look looked).withReporter reporter)).2.files.filePlaces ⊆
        files.filePlaces ∪ {place | ∃ save ∈ saves, place = Route.placeOf save.1} := by
    rw [enacts.files]
    intro place member
    rcases Effect.filePlaces_carryOut _ _ member with before | ⟨path, text, inEffects, same⟩
    · exact Or.inl before
    · simp only [List.mem_append, List.mem_map, reduceCtorEq, and_false,
        exists_false, or_false, false_or, Effect.save.injEq] at inEffects
      rcases inEffects with ⟨save, inSaves, rfl, rfl⟩
      exact Or.inr ⟨save, inSaves, same⟩
  rw [stepped, Procedure.perform_bind]
  generalize (executor.take next).perform
    (((executor.workspace files).look looked).withReporter reporter) = performed at taken ⊢
  rcases performed with ⟨outcome, between⟩
  cases outcome with
  | error error => exact taken.trans (Set.subset_insert _ _)
  | ok value => exact (filePlaces_leaveCursor _ _).trans (Set.insert_subset_insert taken)

/-- What the first step has left in an empty directory: there are as many descriptors as runs, and
each run is loaded from its own. -/
structure LeavesAll (executor : Executor) (files : FileStore) (progressFile directory : String)
    (outcome : Outcome) : Prop where
  ending : outcome.ending = .ok ()
  /-- All new files but that of the cursor are descriptors. -/
  count : (outcome.files.filePlaces \ insert (Route.placeOf progressFile) files.filePlaces).ncard =
    executor.runs.length
  loads : ∀ entry ∈ executor.described directory,
    executor.loadRun outcome.files entry.1 = .ok entry.2

/-- The first step can describe the runs in an empty directory. -/
structure CanList (executor : Executor) (files : FileStore) (progressFile directory : String) :
    Prop where
  /-- Qualified names are different. -/
  names : (executor.benchmarks.map PlannedBenchmark.qualifiedName).Nodup
  /-- Descriptors are in the directory itself. -/
  noSlash : ∀ planned ∈ executor.benchmarks, '/' ∉ planned.label.toList
  /-- The files can be written. -/
  admits : files.Admits (progressFile :: executor.runFiles directory)
  /-- The directory is empty. -/
  vacant : ∀ runFile ∈ executor.runFiles directory, files.IsVacant runFile
  /-- The cursor is not in the place of a descriptor. -/
  elsewhere : ∀ runFile ∈ executor.runFiles directory,
    Route.placeOf runFile ≠ Route.placeOf progressFile

section Listing

variable {runs : List PlannedRun}
  (selected : selectRuns executor.suites executor.configuration = .ok runs)

include selected

theorem CanList.slash_notMem (canList : executor.CanList files progressFile directory)
    {entry : String × PlannedRun} (member : entry ∈ PlannedRun.withDescriptorNames "" 0 runs) :
    '/' ∉ entry.1.toList := by
  rcases PlannedRun.descriptorName_of_mem member with ⟨index, shape⟩
  have inRuns : entry.2 ∈ runs := by
    rw [← PlannedRun.map_snd_withDescriptorNames "" 0 runs]
    exact List.mem_map_of_mem member
  have planned : entry.2.planned ∈ executor.benchmarks :=
    PlannedBenchmark.planned_of_mem_allRuns (allRuns_benchmarks selected) inRuns
  rw [shape]
  exact PlannedBenchmark.slash_notMem_descriptorName (canList.noSlash _ planned) index

/-- Files of different names are in different places. -/
theorem CanList.nodup_places (canList : executor.CanList files progressFile directory)
    (distinct : ((PlannedRun.withDescriptorNames "" 0 runs).map Prod.fst).Nodup) :
    ((executor.runFiles directory).map Route.placeOf).Nodup := by
  rcases Route.placeOf_joinPath directory with ⟨outer, places⟩
  have shape : (executor.runFiles directory).map Route.placeOf =
      ((PlannedRun.withDescriptorNames "" 0 runs).map Prod.fst).map (outer ++ ·) := by
    rw [runFiles_eq selected, List.map_map]
    apply List.map_congr_left
    intro file member
    rcases List.mem_map.mp member with ⟨entry, inEntries, rfl⟩
    have inFiles : joinPath directory entry.1 ∈ executor.runFiles directory := by
      rw [runFiles_eq selected]
      exact List.mem_map_of_mem member
    have writable := canList.admits.writable _ (List.mem_cons_of_mem _ inFiles)
    rcases (FileStore.write?_isSome _ _ _).mp writable with ⟨route, found, isFile, -⟩
    exact places entry.1 route (canList.slash_notMem selected inEntries) found isFile
  rw [shape]
  apply distinct.map
  intro file other same
  simpa using same

theorem CanList.leavesAll (canList : executor.CanList files progressFile directory)
    (distinct : ((executor.runFiles directory).map Route.placeOf).Nodup) :
    executor.LeavesAll files progressFile directory
      (executor.step files ⟨progressFile, .list directory⟩) := by
  have does : executor.Does files (.list directory) _ _ _ := does_list selected directory
  rcases exists_loadReporter executor.reporter canList.admits List.mem_cons_self with
    ⟨reporter, resumed⟩
  have runFile {entry : String × PlannedRun} (member : entry ∈ executor.described directory) :
      entry.1 ∈ executor.runFiles directory := List.mem_map_of_mem member
  have complete := does.isComplete resumed canList.admits List.mem_cons_self (by
    intro save inSaves
    rcases List.mem_map.mp inSaves with ⟨entry, member, rfl⟩
    exact List.mem_cons_of_mem _ (runFile member)) (by
    rw [runFiles, List.map_map] at distinct
    rwa [List.map_map])
  have reads {entry : String × PlannedRun} (member : entry ∈ executor.described directory) :
      (executor.step files ⟨progressFile, .list directory⟩).files.read? entry.1 =
        some entry.2.descriptor.text :=
    complete.saved _ (List.mem_map_of_mem member) (canList.elsewhere _ (runFile member))
  -- The new files are the descriptors: each is there, and nothing else is written but the cursor.
  have added : (executor.step files ⟨progressFile, .list directory⟩).files.filePlaces \
      insert (Route.placeOf progressFile) files.filePlaces =
        ((executor.runFiles directory).map Route.placeOf).toFinset := by
    ext place
    simp only [List.coe_toFinset, Set.mem_ofPred_eq, Set.mem_sdiff, List.mem_map]
    constructor
    · rintro ⟨present, isNew⟩
      rcases filePlaces_step does resumed present with same | before | ⟨save, inSaves, same⟩
      · exact absurd (Or.inl same) isNew
      · exact absurd (Or.inr before) isNew
      · rcases List.mem_map.mp inSaves with ⟨entry, member, rfl⟩
        exact ⟨entry.1, runFile member, same.symm⟩
    · rintro ⟨path, inFiles, rfl⟩
      rcases List.mem_map.mp inFiles with ⟨entry, member, rfl⟩
      refine ⟨FileStore.mem_filePlaces_of_read? (reads member), ?_⟩
      rintro (same | ⟨text, before⟩)
      · exact canList.elsewhere _ inFiles same
      · have vacant := canList.vacant _ inFiles
        rw [FileStore.IsVacant, before] at vacant
        cases vacant
  constructor
  case ending => exact complete.ending
  case count =>
    rw [added, Set.ncard_coe_finset, List.toFinset_card_of_nodup distinct, List.length_map,
      ← executor.map_snd_described directory]
    simp [runFiles]
  case loads =>
    intro entry member
    exact loadRun_described canList.names (mem_runs_of_described member) (reads member)

/-- Two runs cannot both be loaded from one file. -/
theorem LeavesAll.nodup_labels {outcome : Outcome}
    (leavesAll : executor.LeavesAll files progressFile directory outcome)
    (names : (executor.benchmarks.map PlannedBenchmark.qualifiedName).Nodup) :
    (executor.benchmarks.map PlannedBenchmark.label).Nodup := by
  have loads {entry : String × PlannedRun}
      (member : entry ∈ PlannedRun.withDescriptorNames "" 0 runs) :
      executor.loadRun outcome.files (joinPath directory entry.1) = .ok entry.2 := by
    apply leavesAll.loads (joinPath directory entry.1, entry.2)
    rw [described, runs_eq selected]
    exact List.mem_map_of_mem member
  rw [← nodup_descriptorNames selected names]
  apply nodup_of_tells selected names
  intro entry member other otherMember same
  have first := loads member
  rw [same, loads otherMember] at first
  exact (Except.ok.inj first).symm

/-- The first step leaves all runs, each in a file of its own, exactly when no two benchmarks have
descriptors that are named after the same. -/
theorem leavesAll_iff (canList : executor.CanList files progressFile directory) :
    ((executor.runFiles directory).Nodup ↔
        (executor.benchmarks.map PlannedBenchmark.label).Nodup) ∧
      (executor.LeavesAll files progressFile directory
          (executor.step files ⟨progressFile, .list directory⟩) ↔
        (executor.benchmarks.map PlannedBenchmark.label).Nodup) := by
  have labels := nodup_descriptorNames selected canList.names
  refine ⟨⟨?_, ?_⟩, ⟨?_, ?_⟩⟩
  · intro distinct
    rw [runFiles_eq selected] at distinct
    exact labels.mp distinct.of_map
  · intro apart
    exact (canList.nodup_places selected (labels.mpr apart)).of_map
  · intro leavesAll
    exact leavesAll.nodup_labels selected canList.names
  · intro apart
    exact canList.leavesAll selected (canList.nodup_places selected (labels.mpr apart))

end Listing

/-- Where no files are yet, any names will do. -/
theorem canList_empty (fileNames : ∀ path ∈ progressFile :: executor.runFiles directory,
      Route.IsFileName path)
    (names : (executor.benchmarks.map PlannedBenchmark.qualifiedName).Nodup)
    (noSlash : ∀ planned ∈ executor.benchmarks, '/' ∉ planned.label.toList)
    (elsewhere : progressFile ∉ executor.runFiles directory) :
    executor.CanList .empty progressFile directory := by
  constructor
  case names => exact names
  case noSlash => exact noSlash
  case admits => exact FileStore.admits_empty fileNames
  case vacant =>
    intro runFile member
    exact FileStore.isVacant_empty (fileNames runFile (List.mem_cons_of_mem _ member))
  case elsewhere =>
    intro runFile member same
    have file := Route.placeOf_fileName_inj (fileNames runFile (List.mem_cons_of_mem _ member))
      (fileNames progressFile List.mem_cons_self) same
    exact elsewhere (file ▸ member)

end Executor

namespace Demonstration

/-- An executor of suites with one benchmark each; the names of both are given. -/
def pairsExecutor (names : List (String × String)) : Executor :=
  .create configuration (names.map fun (suite, benchmark) =>
    (Suite.create suite).add (growing benchmark .plain [500] 0).benchmark)

/-- Two suites whose benchmarks can be told from each other in spite of an underscore. -/
def apart : Executor := pairsExecutor [("a", "b"), ("a_b", "c")]

/-- Two suites whose benchmarks cannot be told from each other because of an underscore. -/
def mixed : Executor := pairsExecutor [("a", "b_c"), ("a_b", "c")]

theorem runFiles_apart : apart.runFiles "" = ["a_b_0.json", "a_b_c_0.json"] := by
  rw [Executor.runFiles_here]
  decide

theorem runFiles_mixed : mixed.runFiles "" = ["a_b_c_0.json", "a_b_c_0.json"] := by
  rw [Executor.runFiles_here]
  decide

theorem isFileName_listed :
    ∀ path ∈ ["cursor", "a_b_0.json", "a_b_c_0.json"], Route.IsFileName path := by
  simp only [List.forall_mem_cons, List.not_mem_nil, false_implies, implies_true, and_true]
  refine ⟨?_, ?_, ?_⟩ <;>
    exact ⟨by simp [Route.isName, Route.nameLimit]; decide, by decide, by decide⟩

theorem canList_apart : apart.CanList .empty "cursor" "" := by
  apply Executor.canList_empty
  case fileNames =>
    rw [runFiles_apart]
    exact isFileName_listed
  case names => decide
  case noSlash => decide
  case elsewhere =>
    rw [runFiles_apart]
    decide

theorem canList_mixed : mixed.CanList .empty "cursor" "" := by
  apply Executor.canList_empty
  case fileNames =>
    rw [runFiles_mixed]
    intro path member
    apply isFileName_listed
    revert path
    decide
  case names => decide
  case noSlash => decide
  case elsewhere =>
    rw [runFiles_mixed]
    decide

/-- Benchmarks that can be told from each other have descriptors of their own. -/
theorem leavesAll_iff_apart :
    selectRuns apart.suites apart.configuration = .ok apart.runs ∧
      apart.CanList .empty "cursor" "" ∧
      ((apart.runFiles "").Nodup ↔ (apart.benchmarks.map PlannedBenchmark.label).Nodup) ∧
      (apart.LeavesAll .empty "cursor" "" (apart.step .empty ⟨"cursor", .list ""⟩) ↔
        (apart.benchmarks.map PlannedBenchmark.label).Nodup) :=
  ⟨rfl, canList_apart, Executor.leavesAll_iff rfl canList_apart⟩

/-- The benchmarks `a.b_c` and `a_b.c` have different names, but one descriptor between them. -/
theorem not_leavesAll_mixed :
    (mixed.benchmarks.map PlannedBenchmark.qualifiedName).Nodup ∧
      mixed.CanList .empty "cursor" "" ∧
      mixed.runFiles "" = ["a_b_c_0.json", "a_b_c_0.json"] ∧
      ¬ mixed.LeavesAll .empty "cursor" "" (mixed.step .empty ⟨"cursor", .list ""⟩) := by
  refine ⟨by decide, canList_mixed, runFiles_mixed, ?_⟩
  intro leavesAll
  have apart := leavesAll.nodup_labels rfl canList_mixed.names
  revert apart
  decide

end Demonstration

end Microbench
