import Mathlib.Data.List.Basic
import Microbench.Proofs.Progress.Calls

/-!
# One execution after another

The call that starts an execution clears what is known of the open group's runs, and nothing else.
A reporter that has told of executions before, or that goes on from a kept cursor, still knows
which group was open and whether anything had failed: the end of an execution tells that the group
closes but does not forget it. So a reporter begins afresh exactly when nothing is left of what
came before, that is, when no group is open and nothing has failed.
-/

namespace Microbench

namespace ReporterCall

/-- The class of the run that a call starts. -/
def class? : ReporterCall → Option String
  | startBenchmark _ benchmark => some (Structured.splitRunId benchmark).1
  | _ => none

/-- Whether a call tells that a run has failed. -/
def tellsFailure : ReporterCall → Bool
  | endBenchmark _ _ .failure _ => true
  | endException .. => true
  | _ => false

/-- The class that was entered last by calls that found some class open. -/
def lastClass (openClass : String) (calls : List ReporterCall) : String :=
  (calls.filterMap class?).getLast?.getD openClass

end ReporterCall

namespace Structured

variable (cursor : Cursor)

theorem openClass_step (call : ReporterCall) :
    (step cursor call).1.openClass = call.class?.getD cursor.openClass := by
  cases call with
  | startSuite suite => rfl
  | endSuite suite summary => rfl
  | endException suite benchmark error trace => rfl
  | output suite benchmark message => rfl
  | endBenchmark suite benchmark status message => cases status <;> rfl
  | startBenchmark suite benchmark =>
      simp only [step_startBenchmark, enterClass, ReporterCall.class?, Option.getD_some]
      split
      · assumption
      · rfl

theorem openClass_run (calls : List ReporterCall) :
    (run cursor calls).1.openClass = ReporterCall.lastClass cursor.openClass calls := by
  induction calls generalizing cursor with
  | nil => rfl
  | cons call calls ih =>
      simp only [run_cons, ih, openClass_step, ReporterCall.lastClass]
      cases entered : call.class? with
      | none => simp [entered]
      | some className => simp [entered, List.getLast?_cons]

theorem suiteStatus_step (call : ReporterCall) :
    (step cursor call).1.suiteStatus = .success ↔
      cursor.suiteStatus = .success ∧ call.tellsFailure = false := by
  cases call with
  | startSuite suite => simp [step, ReporterCall.tellsFailure]
  | endSuite suite summary => simp [step, ReporterCall.tellsFailure]
  | endException suite benchmark error trace => simp [step, markFailure, ReporterCall.tellsFailure]
  | output suite benchmark message => simp [step, ReporterCall.tellsFailure]
  | endBenchmark suite benchmark status message =>
      cases status with
      | success => simp [step, ReporterCall.tellsFailure]
      | failure => simp [step, markFailure, ReporterCall.tellsFailure]
  | startBenchmark suite benchmark =>
      simp only [step_startBenchmark, enterClass, ReporterCall.tellsFailure, and_true]
      split
      · rfl
      · rfl

/-- Whatever comes after a failure, it is never forgotten. -/
theorem suiteStatus_run (calls : List ReporterCall) :
    (run cursor calls).1.suiteStatus = .success ↔
      cursor.suiteStatus = .success ∧ ∀ call ∈ calls, call.tellsFailure = false := by
  induction calls generalizing cursor with
  | nil => simp [run]
  | cons call calls ih => simp [run_cons, ih, suiteStatus_step, and_assoc]

end Structured

namespace Reporter

/-- What a reporter tells of an execution is what a new one would tell of it. -/
def BeginsAfresh (reporter : Reporter) : Prop :=
  ∀ suite calls, (reporter.reportAll (.startSuite suite :: calls)).2 =
    ((create .xml).reportAll (.startSuite suite :: calls)).2

/-- A new reporter that goes on from the text of a kept cursor, if there is one. -/
def resuming (kept : Option String) : Reporter :=
  match kept with
  | none => create .xml
  | some text => (create .xml).restore (Cursor.decode text)

/-- Where a reporter stands before it is told anything. -/
def resumedCursor (kept : Option String) : Cursor := (kept.map Cursor.decode).getD .initial

theorem resuming_eq (kept : Option String) : resuming kept = .structured (resumedCursor kept) := by
  cases kept <;> rfl

variable {cursor : Cursor}

theorem lines_started (cursor : Cursor) (suite : String) (calls : List ReporterCall) :
    ((structured cursor).reportAll (.startSuite suite :: calls)).2 =
      [(Event.suiteStart "" Structured.rootId).text,
          (Event.suiteStart Structured.rootId suite).text] ++
        (Structured.run { cursor with classStatus := .success } calls).2.map Event.text := by
  simp [Structured.reportAll_structured, Structured.run_cons, Structured.step]

/-- An execution without runs already shows whether a group was left open. -/
theorem openClass_of_beginsAfresh (afresh : (structured cursor).BeginsAfresh) :
    cursor.openClass = "" := by
  by_contra isOpen
  have sameLength := congrArg List.length (afresh "" [.endSuite "" ""])
  simp [create, lines_started, Structured.run, Structured.step, Structured.closeClass, isOpen,
    Cursor.initial] at sameLength

/-- It shows at its end whether anything had failed. -/
theorem suiteStatus_of_beginsAfresh (afresh : (structured cursor).BeginsAfresh) :
    cursor.suiteStatus = .success := by
  have lastLine := congrArg List.getLast? (afresh "" [.endSuite "" ""])
  have nothingOpen := openClass_of_beginsAfresh afresh
  cases status : cursor.suiteStatus with
  | success => rfl
  | failure =>
      simp [create, lines_started, Structured.run, Structured.step, Structured.closeClass,
        nothingOpen, Cursor.initial, status] at lastLine
      revert lastLine
      decide

theorem beginsAfresh_structured :
    (structured cursor).BeginsAfresh ↔ cursor.openClass = "" ∧ cursor.suiteStatus = .success := by
  constructor
  · intro afresh
    exact ⟨openClass_of_beginsAfresh afresh, suiteStatus_of_beginsAfresh afresh⟩
  · rintro ⟨nothingOpen, noFailure⟩ suite calls
    -- The status of the group is the one field that the first call clears.
    have cleared : { cursor with classStatus := .success } = Cursor.initial := by
      simp [Cursor.initial, nothingOpen, noFailure]
    simp only [create, lines_started, cleared]
    rfl

/-- A reporter begins an execution afresh exactly when the class that was entered last is the one
without a name and no run has ever failed, neither before its cursor was kept nor since. -/
theorem beginsAfresh_iff (kept : Option String) (earlier : List ReporterCall) :
    ((resuming kept).reportAll earlier).1.BeginsAfresh ↔
      ReporterCall.lastClass (resumedCursor kept).openClass earlier = "" ∧
        (resumedCursor kept).suiteStatus = .success ∧
        ∀ call ∈ earlier, call.tellsFailure = false := by
  simp only [resuming_eq, Structured.reportAll_structured, beginsAfresh_structured,
    Structured.openClass_run, Structured.suiteStatus_run]

end Reporter

namespace Demonstration

/-- An execution whose only run fails. -/
def failedExecution : List ReporterCall :=
  [.startSuite "demo", .startBenchmark "demo" "demo.Failing.run",
    .endException "demo" "demo.Failing.run" "exhausted" "", .endSuite "demo" ""]

/-- An execution whose only run succeeds. -/
def soundExecution : List ReporterCall :=
  [.startSuite "demo", .startBenchmark "demo" "demo.Failing.run",
    .endBenchmark "demo" "demo.Failing.run" .success "", .endSuite "demo" ""]

/-- After a failed execution, one in which nothing fails is not told as a new reporter tells it: the
opening of its group is missing. -/
theorem soundExecution_after_failedExecution :
    (((Reporter.create .xml).reportAll failedExecution).1.reportAll soundExecution).2 ≠
      ((Reporter.create .xml).reportAll soundExecution).2 := by
  intro same
  have sameLength := congrArg List.length same
  simp only [Reporter.create, Structured.reportAll_structured, List.length_map] at sameLength
  revert sameLength
  decide

end Demonstration

end Microbench
