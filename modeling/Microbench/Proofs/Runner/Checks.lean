import Microbench.Proofs.Runner.Procedures

/-!
# Checks before deeds

A procedure looks at files to check its input, and it acts: it tells, measures and saves. If it does
nothing but look until all checks are made, an error about the input leaves everything as it was.
This is shown part by part: what comes first only looks, and what comes then blames no input.
-/

namespace Microbench

/-- Whether an error is about what was given, and not about a file that was to be written. -/
def ExecutorError.isAboutInput : ExecutorError → Bool
  | .unwritable _ => false
  | _ => true

namespace Workspace

/-- Files were looked at, and nothing else has happened. -/
structure HasLooked (after before : Workspace) : Prop where
  trace : ∃ paths : List String, after.trace = before.trace ++ paths.map .looked
  files : after.files = before.files
  lines : after.lines = before.lines

theorem hasLooked_look (space : Workspace) (paths : List String) :
    (space.look paths).HasLooked space :=
  ⟨⟨paths, rfl⟩, rfl, rfl⟩

namespace HasLooked

variable {before between after : Workspace}

theorem refl (space : Workspace) : space.HasLooked space :=
  ⟨⟨[], by simp⟩, rfl, rfl⟩

theorem trans (first : between.HasLooked before) (second : after.HasLooked between) :
    after.HasLooked before := by
  rcases first.trace with ⟨paths, earlier⟩
  rcases second.trace with ⟨others, later⟩
  refine ⟨⟨paths ++ others, ?_⟩, second.files.trans first.files, second.lines.trans first.lines⟩
  rw [later, earlier, List.map_append, List.append_assoc]

end HasLooked

end Workspace

namespace Procedure

variable {α β : Type}

/-- A procedure may go wrong, but not because of its input. -/
def Acts (procedure : Procedure α) : Prop :=
  ∀ space error, (procedure.perform space).1 = .error error → error.isAboutInput = false

section Acts

theorem acts_get : (get : Procedure Workspace).Acts := by
  intro space error wrong
  cases wrong

theorem acts_pure (value : α) : (pure value : Procedure α).Acts := by
  intro space error wrong
  cases wrong

theorem acts_tell (call : ReporterCall) : (tell call).Acts := by
  intro space error wrong
  cases wrong

theorem acts_tellAll (calls : List ReporterCall) : (tellAll calls).Acts := by
  intro space error wrong
  rw [perform_tellAll] at wrong
  cases wrong

theorem acts_save [WorkingDirectory] (path text : String) : (save path text).Acts := by
  intro space error wrong
  rw [perform_save] at wrong
  split at wrong
  · cases wrong
  · cases wrong
    rfl

theorem acts_perform (run : PlannedRun) (name : String) (execution : Execution α) :
    (run.perform name execution).Acts := by
  intro space error wrong
  rw [PlannedRun.perform_perform] at wrong
  cases wrong

theorem Acts.bind {first : Procedure α} {later : α → Procedure β} (acts : first.Acts)
    (actsLater : ∀ value, (later value).Acts) : (first >>= later).Acts := by
  intro space error wrong
  rw [perform_bind] at wrong
  cases performed : first.perform space with
  | mk outcome between =>
      rw [performed] at wrong
      cases outcome with
      | error other =>
          cases wrong
          exact acts space error (by rw [performed])
      | ok value => exact actsLater value between error wrong

end Acts

/-- A procedure finds what a check of its input finds. If this is an error, it ends the procedure,
which has done nothing but look at files by then. -/
structure Heeds (procedure : Procedure α) (space : Workspace) (check : Except ExecutorError Unit) :
    Prop where
  refused : ∀ error, check = .error error →
    (procedure.perform space).1 = .error error ∧ (procedure.perform space).2.HasLooked space
  acts : check = .ok () → ∀ error, (procedure.perform space).1 = .error error →
    error.isAboutInput = false

namespace Heeds

variable {space between : Workspace}

/-- What never blames the input needs no check. -/
theorem of_acts {procedure : Procedure α} (acts : procedure.Acts) (space : Workspace) :
    procedure.Heeds space (.ok ()) :=
  ⟨nofun, fun _ => acts space⟩

/-- What only looks at files is a check itself. -/
theorem of_load {procedure : Procedure Unit} {check : Except ExecutorError Unit}
    (performed : procedure.perform space = (check, between)) (looked : between.HasLooked space) :
    procedure.Heeds space check := by
  constructor
  case refused =>
    intro error same
    rw [performed]
    exact ⟨same, looked⟩
  case acts =>
    intro sound error wrong
    rw [performed, sound] at wrong
    cases wrong

/-- A check may come after another one. -/
theorem after_load {first : Procedure α} {later : α → Procedure β} {load : Except ExecutorError α}
    {check : α → Except ExecutorError Unit} (performed : first.perform space = (load, between))
    (looked : between.HasLooked space)
    (heeds : ∀ value, load = .ok value → (later value).Heeds between (check value)) :
    (first >>= later).Heeds space (load >>= check) := by
  cases load with
  | error wrong =>
      have whole : (first >>= later).perform space = (.error wrong, between) := by
        rw [perform_bind, performed]
      constructor
      case refused =>
        intro error same
        cases same
        rw [whole]
        exact ⟨rfl, looked⟩
      case acts =>
        intro sound
        cases sound
  | ok value =>
      have whole : (first >>= later).perform space = (later value).perform between := by
        rw [perform_bind, performed]
      have rest := heeds value rfl
      constructor
      case refused =>
        intro error same
        rcases rest.refused error same with ⟨ending, lookedLater⟩
        rw [whole]
        exact ⟨ending, looked.trans lookedLater⟩
      case acts =>
        intro sound error wrong
        rw [whole] at wrong
        exact rest.acts sound error wrong

/-- After the last check a procedure may act. -/
theorem then_acts {first : Procedure α} {later : α → Procedure β}
    {check : Except ExecutorError Unit} (heeds : first.Heeds space check)
    (acts : ∀ value, (later value).Acts) : (first >>= later).Heeds space check := by
  cases performed : first.perform space with
  | mk outcome between =>
      constructor
      case refused =>
        intro error same
        rcases heeds.refused error same with ⟨ending, looked⟩
        rw [performed] at ending looked
        rw [perform_bind, performed]
        cases ending
        exact ⟨rfl, looked⟩
      case acts =>
        intro sound error wrong
        rw [perform_bind, performed] at wrong
        cases outcome with
        | error other =>
            cases wrong
            exact heeds.acts sound error (by rw [performed])
        | ok value => exact acts value between error wrong

end Heeds

end Procedure

namespace Executor

variable [WorkingDirectory]

theorem acts_leave {α : Type} (executor : Executor) (run : PlannedRun) (text : α → String)
    (resultFile : String) (outcome : Except Failure α) :
    (executor.leave run text resultFile outcome).Acts := by
  cases outcome with
  | ok value => exact Procedure.acts_save resultFile (text value)
  | error failure =>
      exact (Procedure.acts_tell _).bind fun _ => Procedure.acts_save resultFile nullText

theorem acts_describe (directory : String) (runs : List (String × PlannedRun)) :
    (describe directory runs).Acts := by
  induction runs with
  | nil => exact Procedure.acts_pure ()
  | cons entry runs ih => exact (Procedure.acts_save _ _).bind fun _ => ih

theorem acts_complete (executor : Executor) : executor.complete.Acts :=
  Procedure.acts_get.bind fun _ => (Procedure.acts_tell _).bind fun _ => Procedure.acts_save _ _

theorem acts_leaveCursor (progressFile : String) : (leaveCursor progressFile).Acts := by
  refine Procedure.acts_get.bind fun space => ?_
  cases space.reporter.cursor? with
  | none => exact Procedure.acts_pure ()
  | some cursor => exact Procedure.acts_save _ _

end Executor

end Microbench
