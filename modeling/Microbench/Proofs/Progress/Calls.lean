import Microbench.Progress.Reporter

/-!
# Calls one after the other

A reporter that is given calls in two parts writes what it would have written for all of them. For
structured progress the same can be said of events, before they become lines.
-/

namespace Microbench

/-- The identifier of the run that a call is about. -/
def ReporterCall.run? : ReporterCall → Option String
  | startSuite _ => none
  | endSuite _ _ => none
  | startBenchmark _ benchmark => some benchmark
  | endBenchmark _ benchmark _ _ => some benchmark
  | endException _ benchmark _ _ => some benchmark
  | output _ benchmark _ => some benchmark

namespace Reporter

theorem reportAll_cons (reporter : Reporter) (call : ReporterCall) (calls : List ReporterCall) :
    reporter.reportAll (call :: calls) =
      (((reporter.report call).1.reportAll calls).1,
        (reporter.report call).2 ++ ((reporter.report call).1.reportAll calls).2) :=
  rfl

theorem reportAll_append (reporter : Reporter) (earlier later : List ReporterCall) :
    reporter.reportAll (earlier ++ later) =
      (((reporter.reportAll earlier).1.reportAll later).1,
        (reporter.reportAll earlier).2 ++ ((reporter.reportAll earlier).1.reportAll later).2) := by
  induction earlier generalizing reporter with
  | nil => rfl
  | cons call earlier ih =>
      rw [List.cons_append, reportAll_cons, reportAll_cons, ih (reporter.report call).1,
        List.append_assoc]

end Reporter

namespace Structured

theorem run_cons (cursor : Cursor) (call : ReporterCall) (calls : List ReporterCall) :
    run cursor (call :: calls) =
      ((run (step cursor call).1 calls).1,
        (step cursor call).2 ++ (run (step cursor call).1 calls).2) :=
  rfl

theorem run_append (cursor : Cursor) (earlier later : List ReporterCall) :
    run cursor (earlier ++ later) =
      ((run (run cursor earlier).1 later).1,
        (run cursor earlier).2 ++ (run (run cursor earlier).1 later).2) := by
  induction earlier generalizing cursor with
  | nil => rfl
  | cons call earlier ih =>
      rw [List.cons_append, run_cons, run_cons, ih (step cursor call).1, List.append_assoc]

theorem reportAll_structured (cursor : Cursor) (calls : List ReporterCall) :
    (Reporter.structured cursor).reportAll calls =
      (.structured (run cursor calls).1, (run cursor calls).2.map Event.text) := by
  induction calls generalizing cursor with
  | nil => rfl
  | cons call calls ih =>
      rw [Reporter.reportAll_cons, run_cons]
      change (((Reporter.structured (step cursor call).1).reportAll calls).1,
        (step cursor call).2.map Event.text ++
          ((Reporter.structured (step cursor call).1).reportAll calls).2) = _
      rw [ih, List.map_append]

theorem run_outputs (cursor : Cursor) (suite benchmark : String) (lines : List String) :
    run cursor (lines.map (.output suite benchmark)) =
      (cursor, lines.map fun line => .output cursor.openClass benchmark (line ++ "\n")) := by
  induction lines with
  | nil => rfl
  | cons line lines ih =>
      rw [List.map_cons, run_cons, step, ih]
      rfl

theorem step_startBenchmark (cursor : Cursor) (suite benchmark : String) :
    step cursor (.startBenchmark suite benchmark) =
      ((enterClass suite (splitRunId benchmark).1 cursor).1,
        (enterClass suite (splitRunId benchmark).1 cursor).2 ++
          [.testStart (enterClass suite (splitRunId benchmark).1 cursor).1.openClass
              (splitRunId benchmark).1 (splitRunId benchmark).2,
            .output (enterClass suite (splitRunId benchmark).1 cursor).1.openClass benchmark
              (suite ++ ": " ++ benchmark ++ "\n")]) :=
  rfl

theorem openClass_enterClass (suite className : String) (cursor : Cursor) :
    (enterClass suite className cursor).1.openClass = className := by
  rw [enterClass]
  split
  · assumption
  · rfl

/-- The events of a start are those of entering the class and of a start in this class. -/
theorem run_entered (cursor : Cursor) (suite benchmark : String) (calls : List ReporterCall) :
    run cursor (.startBenchmark suite benchmark :: calls) =
      ((run (enterClass suite (splitRunId benchmark).1 cursor).1
          (.startBenchmark suite benchmark :: calls)).1,
        (enterClass suite (splitRunId benchmark).1 cursor).2 ++
          (run (enterClass suite (splitRunId benchmark).1 cursor).1
            (.startBenchmark suite benchmark :: calls)).2) := by
  have entered := openClass_enterClass suite (splitRunId benchmark).1 cursor
  have again : enterClass suite (splitRunId benchmark).1
      (enterClass suite (splitRunId benchmark).1 cursor).1 =
        ((enterClass suite (splitRunId benchmark).1 cursor).1, []) := by
    rw [enterClass, if_pos entered]
  rw [run_cons, run_cons, step_startBenchmark, step_startBenchmark, again]
  simp

end Structured

end Microbench
