import Microbench.Proofs.Progress.Cursor
import Microbench.Proofs.Progress.Restart

/-!
# Progress in pieces

The steps of an execution tell its progress piece by piece. Each piece is told by a reporter of its
own, which knows nothing but the cursor that the one before has left in a file. As long as every
class can stand in a line, nothing can be seen of the cuts, wherever they are made and however many
there are.
-/

namespace Microbench

namespace Reporter

/-- A new reporter that goes on from the cursor that another one leaves. -/
def successor (reporter : Reporter) : Reporter := resuming (reporter.cursor?.map Cursor.encode)

/-- What follows the piece of a reporter, each piece told by the successor of the reporter before:
the last reporter, and the lines of all. -/
def passOn (reporter : Reporter) : List (List ReporterCall) → Reporter × List String
  | [] => (reporter, [])
  | piece :: pieces =>
    let (next, lines) := reporter.successor.reportAll piece
    let (last, later) := next.passOn pieces
    (last, lines ++ later)

/-- Pieces told by a reporter each, the first of which finds no cursor: the last reporter, and the
lines of all. -/
def tellInPieces : List (List ReporterCall) → Reporter × List String
  | [] => (resuming none, [])
  | first :: pieces =>
    let (reporter, lines) := (resuming none).reportAll first
    let (last, later) := reporter.passOn pieces
    (last, lines ++ later)

variable {reporter : Reporter}

/-- A successor does as the reporter before would have done. -/
theorem successor_eq (continues : reporter.Continues .xml) : reporter.successor = reporter := by
  have restored {cursor : Cursor} (kept : reporter.cursor? = some cursor) :=
    restore_kept continues kept
  rcases continues with ⟨cursor, rfl, -⟩
  exact restored rfl

theorem passOn_eq (continues : reporter.Continues .xml) {pieces : List (List ReporterCall)}
    (clean : ∀ call ∈ pieces.flatten, call.IsClean) :
    reporter.passOn pieces = reporter.reportAll pieces.flatten := by
  -- Each piece leaves a reporter whose cursor can be kept, so that the next one goes on from it.
  induction pieces generalizing reporter with
  | nil => rfl
  | cons piece pieces ih =>
      rw [List.flatten_cons, List.forall_mem_append] at clean
      have later := ih (continues.reportAll clean.1) clean.2
      rw [passOn, successor_eq continues, List.flatten_cons, reportAll_append]
      simp only [later]

/-- Pieces told by a reporter each are told like the whole by one reporter: the lines are the same,
and the last reporter stands where the one reporter would stand. -/
theorem tellInPieces_eq {calls : List ReporterCall} (clean : ∀ call ∈ calls, call.IsClean)
    {pieces : List (List ReporterCall)} (cut : pieces.flatten = calls) :
    tellInPieces pieces = (create .xml).reportAll calls := by
  subst cut
  cases pieces with
  | nil => rfl
  | cons first pieces =>
      rw [List.flatten_cons, List.forall_mem_append] at clean
      have later := passOn_eq ((continues_create .xml).reportAll clean.1) clean.2
      rw [tellInPieces, List.flatten_cons, reportAll_append]
      simp only [resuming, later]

end Reporter

namespace Demonstration

/-- The execution whose only run fails, cut within the run; one process tells nothing. -/
def failedPieces : List (List ReporterCall) :=
  [[.startSuite "demo", .startBenchmark "demo" "demo.Failing.run"], [],
    [.endException "demo" "demo.Failing.run" "exhausted" ""], [.endSuite "demo" ""]]

/-- The failure is not forgotten by the processes that come after it. -/
theorem tellInPieces_eq_failedExecution :
    (∀ call ∈ failedExecution, call.IsClean) ∧ failedPieces.flatten = failedExecution ∧
      Reporter.tellInPieces failedPieces = (Reporter.create .xml).reportAll failedExecution := by
  have clean : ∀ call ∈ failedExecution, call.IsClean := by
    simp only [failedExecution, List.forall_mem_cons, List.not_mem_nil, false_implies,
      implies_true, and_true]
    exact ⟨trivial, ⟨by decide, by decide⟩, trivial, trivial⟩
  exact ⟨clean, rfl, Reporter.tellInPieces_eq clean rfl⟩

end Demonstration

end Microbench
