import Microbench.Failure.Capture

/-!
# Captures tell of their own code

All captures of a thread share one recorder. Each of them still tells of its own code only: it fails
if this code gives up where no capture inside sees it, and then with the text and the trace of this
very panic.

The induction is on the code, and two facts carry it. A capture leaves the recorder as active as it
was, so every panic below a capture is noted. And a panic that ends code is raised after all
captures in the code, so nothing replaces its trace before the capture around the code takes it.
-/

namespace Microbench

variable {α : Type}

/-- How code ends when a capture in it shows how the captured code ends. A panic that ends the code
is therefore one that it raises outside of its captures. -/
def Closure.ending : Closure α → Except Panic α
  | .done value => .ok value
  | .raise panic => .error panic
  | .attempt phase inner rest => (rest (phase.capture inner.ending)).ending

/-- A capture that has ended, with what the thread had shared before and after it. -/
structure Capture (α : Type) where
  phase : Phase
  code : Closure α
  before : Recorder
  outcome : Except Failure α
  after : Recorder

namespace Capture

/-- The capture of code for a phase. -/
def perform (phase : Phase) (code : Closure α) (recorder : Recorder) : Capture α :=
  let run := code.run { recorder with isActive := true }
  let settled := { run.2.2 with isActive := recorder.isActive }.settle phase run.1
  ⟨phase, code, recorder, settled.1, settled.2⟩

/-- A capture tells how its own code has ended, and leaves nothing of this behind. -/
structure IsSound (capture : Capture α) : Prop where
  fails_iff : (∃ failure, capture.outcome = .error failure) ↔
    ∃ panic, capture.code.ending = .error panic
  /-- A failure is one of this phase, and tells of the panic that ended the code. -/
  failure : ∀ panic failure, capture.code.ending = .error panic →
    capture.outcome = .error failure →
      failure.phase = capture.phase ∧ failure.message = panic.payload.message ∧
        failure.trace = panic.trace ∧ failure.trace ≠ ""
  value : ∀ value, capture.outcome = .ok value ↔ capture.code.ending = .ok value
  isActive : capture.after.isActive = capture.before.isActive
  pending? : (∃ failure, capture.outcome = .error failure) → capture.after.pending? = none

end Capture

namespace Closure

/-- The captures in a run of code, in the order in which they end. -/
def captures : Closure α → Recorder → List (Capture α)
  | .done _, _ => []
  | .raise _, _ => []
  | .attempt phase inner rest, recorder =>
    let capture := Capture.perform phase inner recorder
    inner.captures { recorder with isActive := true } ++
      capture :: (rest capture.outcome).captures capture.after

theorem run_attempt (phase : Phase) (inner : Closure α) (rest : Except Failure α → Closure α)
    (recorder : Recorder) :
    let capture := Capture.perform phase inner recorder
    let later := (rest capture.outcome).run capture.after
    (attempt phase inner rest).run recorder =
      (later.1, (inner.run { recorder with isActive := true }).2.1 ++
        capture.outcome :: later.2.1, later.2.2) :=
  rfl

/-- The captures are those whose outcomes a run shows. -/
theorem outcomes_run (code : Closure α) (recorder : Recorder) :
    (code.run recorder).2.1 = (code.captures recorder).map Capture.outcome := by
  induction code generalizing recorder with
  | done value => rfl
  | raise panic => rfl
  | attempt phase inner rest inner_ih rest_ih =>
      rw [run_attempt, captures, List.map_append, List.map_cons, ← inner_ih, ← rest_ih]

/-- What a run leaves: its own end, a recorder that is as active as before, and in an active one the
trace of the panic that ended it. -/
structure IsTracked (code : Closure α) (recorder : Recorder) : Prop where
  ending : (code.run recorder).1 = code.ending
  isActive : (code.run recorder).2.2.isActive = recorder.isActive
  pending? : recorder.isActive = true → ∀ panic, code.ending = .error panic →
    (code.run recorder).2.2.pending? = some panic.trace

end Closure

namespace Recorder

variable (recorder : Recorder) (phase : Phase) (ending : Except Panic α)

theorem isActive_settle : (recorder.settle phase ending).2.isActive = recorder.isActive := by
  cases ending <;> rfl

/-- The outcome is right if the recorder has the trace of the panic. -/
theorem outcome_settle
    (noted : ∀ panic, ending = .error panic → recorder.pending? = some panic.trace) :
    (recorder.settle phase ending).1 = phase.capture ending := by
  cases ending with
  | ok value => rfl
  | error panic => rw [settle, noted panic rfl, Option.getD_some, Phase.capture, Panic.failure]

theorem pending?_settle {failure : Failure}
    (failed : (recorder.settle phase ending).1 = .error failure) :
    (recorder.settle phase ending).2.pending? = none := by
  cases ending with
  | ok value => cases failed
  | error panic => rfl

end Recorder

namespace Capture

variable {phase : Phase} {code : Closure α} {recorder : Recorder}

theorem isActive_perform : (perform phase code recorder).after.isActive = recorder.isActive :=
  Recorder.isActive_settle _ phase _

theorem outcome_perform (tracked : code.IsTracked { recorder with isActive := true }) :
    (perform phase code recorder).outcome = phase.capture code.ending := by
  rw [← tracked.ending]
  apply Recorder.outcome_settle
  rw [tracked.ending]
  exact tracked.pending? rfl

theorem isSound_perform (tracked : code.IsTracked { recorder with isActive := true }) :
    (perform phase code recorder).IsSound := by
  have outcome : (perform phase code recorder).outcome = phase.capture code.ending :=
    outcome_perform tracked
  have sameCode : (perform phase code recorder).code = code := rfl
  constructor
  case fails_iff =>
    rw [outcome, sameCode]
    cases code.ending <;> simp [Phase.capture]
  case failure =>
    intro panic failure ended failed
    rw [sameCode] at ended
    rw [outcome, ended] at failed
    cases failed
    exact ⟨rfl, rfl, rfl, panic.trace_ne_empty⟩
  case value =>
    intro value
    rw [outcome, sameCode]
    cases code.ending <;> simp [Phase.capture]
  case isActive => exact isActive_perform
  case pending? =>
    rintro ⟨failure, failed⟩
    exact Recorder.pending?_settle _ phase _ failed

end Capture

namespace Closure

theorem isTracked (code : Closure α) (recorder : Recorder) : code.IsTracked recorder := by
  induction code generalizing recorder with
  | done value => exact ⟨rfl, rfl, fun _ _ ended => by cases ended⟩
  | raise panic =>
      refine ⟨rfl, ?_, ?_⟩
      · cases active : recorder.isActive <;> simp [run, Recorder.note, active]
      · intro active other ended
        cases ended
        simp [run, Recorder.note, active]
  | attempt phase inner rest inner_ih rest_ih =>
      have outcome : (Capture.perform phase inner recorder).outcome = phase.capture inner.ending :=
        Capture.outcome_perform (inner_ih _)
      -- What follows the capture begins with the recorder that the capture leaves.
      have later := rest_ih (Capture.perform phase inner recorder).outcome
        (Capture.perform phase inner recorder).after
      have sameEnding : (attempt phase inner rest).ending =
          (rest (Capture.perform phase inner recorder).outcome).ending := by
        rw [ending, outcome]
      refine ⟨?_, ?_, ?_⟩
      · rw [run_attempt, sameEnding]
        exact later.ending
      · rw [run_attempt]
        exact later.isActive.trans Capture.isActive_perform
      · intro active panic ended
        rw [run_attempt]
        apply later.pending?
        · rw [Capture.isActive_perform, active]
        · rw [← sameEnding, ended]

/-- Whatever a thread shares when its code begins, each capture in the code, at any depth, tells of
its own code only. It leaves the recorder as active as it was and, when it fails, without a
trace. -/
theorem captures_are_sound (code : Closure α) (recorder : Recorder) :
    (code.run recorder).2.1 = (code.captures recorder).map Capture.outcome ∧
      ∀ capture ∈ code.captures recorder, capture.IsSound := by
  refine ⟨outcomes_run code recorder, ?_⟩
  induction code generalizing recorder with
  | done value => simp [captures]
  | raise panic => simp [captures]
  | attempt phase inner rest inner_ih rest_ih =>
      intro capture member
      rw [captures, List.mem_append, List.mem_cons] at member
      rcases member with inside | rfl | after
      · exact inner_ih _ capture inside
      · exact Capture.isSound_perform (isTracked inner _)
      · exact rest_ih _ _ capture after

end Closure

namespace Demonstration

/-- Code that gives up again with the message of a panic that was captured. -/
def relapsing : Closure Nat :=
  .attempt (.warmup 0) (.raise ⟨.text "exhausted", .full "at the first call" "inside"⟩) fun
    | .ok value => .done value
    | .error failure =>
      .raise ⟨.text ("again " ++ failure.message), .full "at the second call" "outside"⟩

/-- The outer capture tells of the second panic, not of the first. -/
theorem captures_are_sound_relapsing :
    let code : Closure Nat := .attempt .setup relapsing fun _ => .done 0
    let capture := Capture.perform .setup relapsing .idle
    capture ∈ code.captures .idle ∧ capture.IsSound ∧
      capture.outcome = .error ⟨.setup, "again exhausted", "at the second call\noutside"⟩ := by
  intro code capture
  have member : capture ∈ code.captures .idle := by simp [code, Closure.captures, capture]
  have isSound := (Closure.captures_are_sound code .idle).2 capture member
  refine ⟨member, isSound, ?_⟩
  cases outcome : capture.outcome with
  | ok value => cases (isSound.value value).mp outcome
  | error failure =>
      rcases isSound.failure _ failure rfl outcome with ⟨samePhase, message, trace, -⟩
      cases failure
      cases samePhase
      cases message
      cases trace
      rfl

end Demonstration

end Microbench
