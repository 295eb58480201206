import Microbench.Proofs.Progress.Calls
import Microbench.Proofs.Runner.Procedures

/-!
# Effects in a row

What a procedure does to its surroundings once it has looked at them is a list of effects: calls to
the reporter and files to save. The effects happen in order, up to a file that cannot be saved.
-/

namespace Microbench

/-- One thing that is done to the surroundings. -/
inductive Effect where
  | report (call : ReporterCall)
  | save (path text : String)
deriving DecidableEq

/-- What has come of effects. -/
structure Aftermath where
  /-- The error that stopped them, if one did. -/
  ending : Except ExecutorError Unit
  files : FileStore
  calls : List ReporterCall

namespace Effect

variable [WorkingDirectory]

/-- Lets effects happen. -/
def carryOut (files : FileStore) : List Effect → Aftermath
  | [] => ⟨.ok (), files, []⟩
  | .report call :: effects =>
    let aftermath := carryOut files effects
    { aftermath with calls := call :: aftermath.calls }
  | .save path text :: effects =>
    match files.write? path text with
    | none => ⟨.error (.unwritable path), files, []⟩
    | some files => carryOut files effects

variable {files later : FileStore} {path text : String}

theorem carryOut_reports (files : FileStore) (calls : List ReporterCall) (effects : List Effect) :
    carryOut files (calls.map .report ++ effects) =
      { carryOut files effects with calls := calls ++ (carryOut files effects).calls } := by
  induction calls with
  | nil => rfl
  | cons call calls ih => rw [List.map_cons, List.cons_append, carryOut, ih]; rfl

theorem carryOut_save (written : files.write? path text = some later) (effects : List Effect) :
    carryOut files (.save path text :: effects) = carryOut later effects := by
  rw [carryOut, written]

theorem carryOut_unwritable (refused : files.write? path text = none) (effects : List Effect) :
    carryOut files (.save path text :: effects) = ⟨.error (.unwritable path), files, []⟩ := by
  rw [carryOut, refused]

end Effect

/-- What the reporter has been told by an execution or a step of one. -/
def Outcome.calls (outcome : Outcome) : List ReporterCall :=
  outcome.trace.filterMap Occurrence.call?

namespace Workspace

/-- What the reporter has been told. -/
def calls (space : Workspace) : List ReporterCall := space.trace.filterMap Occurrence.call?

/-- The reporter has been told some calls, and nothing else. -/
structure HasHeard (after before : Workspace) (calls : List ReporterCall) : Prop where
  reporter : after.reporter = (before.reporter.reportAll calls).1
  lines : after.lines = before.lines ++ (before.reporter.reportAll calls).2
  calls : after.calls = before.calls ++ calls

namespace HasHeard

variable {before between after : Workspace} {earlier later : List ReporterCall}

/-- What is not told to the reporter leaves it as it was. -/
theorem of_silent (reporter : after.reporter = before.reporter) (lines : after.lines = before.lines)
    (calls : after.calls = before.calls) : after.HasHeard before [] := by
  refine ⟨reporter, ?_, ?_⟩
  · rw [lines, Reporter.reportAll, List.append_nil]
  · rw [calls, List.append_nil]

theorem trans (first : between.HasHeard before earlier) (second : after.HasHeard between later) :
    after.HasHeard before (earlier ++ later) := by
  have both := Reporter.reportAll_append before.reporter earlier later
  constructor
  case reporter => rw [both, second.reporter, first.reporter]
  case lines => rw [both, second.lines, first.lines, first.reporter, List.append_assoc]
  case calls => rw [second.calls, first.calls, List.append_assoc]

end HasHeard

variable (space : Workspace)

theorem calls_record (occurrence : Occurrence) :
    (space.record occurrence).calls = space.calls ++ occurrence.call?.toList := by
  rw [calls, calls, record, List.filterMap_append]
  cases heard : occurrence.call? <;> simp [heard]

theorem calls_look (paths : List String) : (space.look paths).calls = space.calls := by
  have silent : (paths.map Occurrence.looked).filterMap Occurrence.call? = [] := by
    rw [List.filterMap_map, List.filterMap_eq_nil_iff]
    intro path _
    rfl
  rw [calls, look, List.filterMap_append, silent, List.append_nil, calls]

theorem hasHeard_look (paths : List String) : (space.look paths).HasHeard space [] :=
  .of_silent rfl rfl (space.calls_look paths)

theorem hasHeard_record {occurrence : Occurrence} (silent : occurrence.call? = none) :
    (space.record occurrence).HasHeard space [] := by
  refine HasHeard.of_silent rfl rfl ?_
  rw [calls_record, silent, Option.toList_none, List.append_nil]

theorem hasHeard_save (path text : String) (files : FileStore) :
    ((space.record (.saved path text)).withFiles files).HasHeard space [] := by
  have saved : (space.record (.saved path text)).HasHeard space [] := space.hasHeard_record rfl
  exact ⟨saved.reporter, saved.lines, saved.calls⟩

theorem hasHeard_tell (call : ReporterCall) : (space.tell call).HasHeard space [call] := by
  constructor
  case reporter => rfl
  case lines =>
    have lines : (space.reporter.reportAll [call]).2 = (space.reporter.report call).2 :=
      List.append_nil _
    rw [lines]
    rfl
  case calls => exact space.calls_record (.told call)

theorem hasHeard_tellAll (calls : List ReporterCall) :
    (space.tellAll calls).HasHeard space calls := by
  induction calls generalizing space with
  | nil => exact HasHeard.of_silent rfl rfl rfl
  | cons call calls ih => exact (space.hasHeard_tell call).trans (ih (space.tell call))

theorem files_tellAll (calls : List ReporterCall) : (space.tellAll calls).files = space.files := by
  induction calls generalizing space with
  | nil => rfl
  | cons call calls ih => exact ih (space.tell call)

theorem results_tellAll (calls : List ReporterCall) :
    (space.tellAll calls).results = space.results := by
  induction calls generalizing space with
  | nil => rfl
  | cons call calls ih => exact ih (space.tell call)

end Workspace

namespace Procedure

section Effects

variable [WorkingDirectory]

/-- What comes of a procedure is what comes of some effects. -/
structure Enacts (procedure : Procedure Unit) (space : Workspace) (effects : List Effect) :
    Prop where
  ending : (procedure.perform space).1 = (Effect.carryOut space.files effects).ending
  files : (procedure.perform space).2.files = (Effect.carryOut space.files effects).files
  heard : (procedure.perform space).2.HasHeard space (Effect.carryOut space.files effects).calls

namespace Enacts

variable {α : Type} {space between : Workspace} {calls : List ReporterCall} {effects : List Effect}

/-- A procedure that goes on like another one after some calls has these as its first effects. -/
theorem of_whole {procedure later : Procedure Unit}
    (whole : procedure.perform space = later.perform between) (same : between.files = space.files)
    (heard : between.HasHeard space calls) (enacts : later.Enacts between effects) :
    procedure.Enacts space (calls.map .report ++ effects) := by
  constructor
  case ending => rw [whole, ← same, Effect.carryOut_reports, enacts.ending]
  case files => rw [whole, ← same, Effect.carryOut_reports, enacts.files]
  case heard =>
    rw [whole, ← same, Effect.carryOut_reports]
    exact heard.trans enacts.heard

/-- A procedure that tells something first has this as its first effects. -/
theorem after {first : Procedure α} {later : α → Procedure Unit} {value : α}
    (performed : first.perform space = (.ok value, between)) (same : between.files = space.files)
    (heard : between.HasHeard space calls) (enacts : (later value).Enacts between effects) :
    (first >>= later).Enacts space (calls.map .report ++ effects) := by
  refine of_whole ?_ same heard enacts
  rw [perform_bind, performed]

/-- A procedure that only looks at files first has the effects of the rest. -/
theorem after_silence {first : Procedure α} {later : α → Procedure Unit} {value : α}
    (performed : first.perform space = (.ok value, between)) (same : between.files = space.files)
    (silent : between.HasHeard space []) (enacts : (later value).Enacts between effects) :
    (first >>= later).Enacts space effects :=
  after performed same silent enacts

theorem done (space : Workspace) : Enacts (pure ()) space [] :=
  ⟨rfl, rfl, .of_silent rfl rfl rfl⟩

theorem tell (call : ReporterCall) (space : Workspace) :
    Enacts (Procedure.tell call) space [.report call] :=
  ⟨rfl, rfl, space.hasHeard_tell call⟩

theorem tell_then {call : ReporterCall} {later : Unit → Procedure Unit}
    (enacts : (later ()).Enacts (space.tell call) effects) :
    (Procedure.tell call >>= later).Enacts space (.report call :: effects) :=
  after (perform_tell call space) rfl (space.hasHeard_tell call) enacts

theorem tellAll_then {later : Unit → Procedure Unit}
    (enacts : (later ()).Enacts (space.tellAll calls) effects) :
    (Procedure.tellAll calls >>= later).Enacts space (calls.map .report ++ effects) :=
  after (perform_tellAll calls space) (space.files_tellAll calls) (space.hasHeard_tellAll calls)
    enacts

/-- Code that runs tells what it has to say. -/
theorem run_then {run : PlannedRun} {name : String} {execution : Execution α}
    {later : Except Failure α → Procedure Unit}
    (enacts : (later execution.outcome).Enacts ((space.record (.ran execution.journal)).tellAll
      (run.outputCalls name execution.lines)) effects) :
    (run.perform name execution >>= later).Enacts space
      ((run.outputCalls name execution.lines).map .report ++ effects) :=
  after (run.perform_perform name execution space) (Workspace.files_tellAll _ _)
    ((space.hasHeard_record rfl).trans (Workspace.hasHeard_tellAll _ _)) enacts

/-- A file that cannot be saved is the last effect. -/
theorem save_then {path text : String} {later : Unit → Procedure Unit}
    (enacts : ∀ files, space.files.write? path text = some files →
      (later ()).Enacts ((space.record (.saved path text)).withFiles files) effects) :
    (Procedure.save path text >>= later).Enacts space (.save path text :: effects) := by
  cases written : space.files.write? path text with
  | none =>
      have whole : (Procedure.save path text >>= later).perform space =
          (.error (.unwritable path), space.record (.saved path text)) := by
        rw [perform_bind, perform_save, written]
      constructor
      case ending => rw [whole, Effect.carryOut_unwritable written]
      case files => rw [whole, Effect.carryOut_unwritable written]; rfl
      case heard =>
        rw [whole, Effect.carryOut_unwritable written]
        exact space.hasHeard_record rfl
  | some files =>
      have rest := enacts files written
      have whole : (Procedure.save path text >>= later).perform space =
          (later ()).perform ((space.record (.saved path text)).withFiles files) := by
        rw [perform_bind, perform_save, written]
      have silent := space.hasHeard_save path text files
      constructor
      case ending => rw [whole, Effect.carryOut_save written]; exact rest.ending
      case files => rw [whole, Effect.carryOut_save written]; exact rest.files
      case heard => rw [whole, Effect.carryOut_save written]; exact silent.trans rest.heard

theorem save (path text : String) (space : Workspace) :
    Enacts (Procedure.save path text) space [.save path text] := by
  rw [← bind_pure (Procedure.save path text)]
  exact save_then fun _ _ => done _

section Report

variable {procedure : Procedure Unit} {path text : String}
  (enacts : procedure.Enacts space (calls.map .report ++ [.save path text]))

include enacts

theorem saved {later : FileStore} (written : space.files.write? path text = some later) :
    (procedure.perform space).2.files = later ∧ (procedure.perform space).1 = .ok () := by
  rw [enacts.files, enacts.ending, Effect.carryOut_reports, Effect.carryOut_save written]
  exact ⟨rfl, rfl⟩

theorem unsaved (refused : space.files.write? path text = none) :
    (procedure.perform space).2.files = space.files ∧
      (procedure.perform space).1 = .error (.unwritable path) := by
  rw [enacts.files, enacts.ending, Effect.carryOut_reports, Effect.carryOut_unwritable refused]
  exact ⟨rfl, rfl⟩

end Report

end Enacts

end Effects

/-- Whatever a procedure tells has some property. -/
def TellsOnly {α : Type} (procedure : Procedure α) (holds : ReporterCall → Prop) : Prop :=
  ∀ space, ∃ calls, (procedure.perform space).2.calls = space.calls ++ calls ∧
    ∀ call ∈ calls, holds call

namespace TellsOnly

variable {α β : Type} {holds : ReporterCall → Prop}

theorem of_silent {procedure : Procedure α}
    (silent : ∀ space, (procedure.perform space).2.calls = space.calls) :
    procedure.TellsOnly holds := by
  intro space
  exact ⟨[], by rw [silent, List.append_nil], by simp⟩

theorem tell {call : ReporterCall} (told : holds call) : (Procedure.tell call).TellsOnly holds :=
  fun space => ⟨[call], (space.hasHeard_tell call).calls, by simpa using told⟩

theorem save [WorkingDirectory] (path text : String) :
    (Procedure.save path text).TellsOnly holds := by
  apply of_silent
  intro space
  have recorded := space.calls_record (.saved path text)
  rw [Occurrence.call?, Option.toList_none, List.append_nil] at recorded
  rw [perform_save]
  split
  · exact recorded
  · exact recorded

theorem bind {first : Procedure α} {later : α → Procedure β} (tells : first.TellsOnly holds)
    (tellsLater : ∀ value, (later value).TellsOnly holds) : (first >>= later).TellsOnly holds := by
  intro space
  rcases tells space with ⟨earlier, told, held⟩
  rw [perform_bind]
  cases performed : first.perform space with
  | mk outcome between =>
      rw [performed] at told
      cases outcome with
      | error error => exact ⟨earlier, told, held⟩
      | ok value =>
          rcases tellsLater value between with ⟨calls, toldLater, heldLater⟩
          refine ⟨earlier ++ calls, ?_, List.forall_mem_append.mpr ⟨held, heldLater⟩⟩
          rw [toldLater, told, List.append_assoc]

end TellsOnly

end Procedure

end Microbench
