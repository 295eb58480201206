import Microbench.Proofs.Progress.Calls
import Microbench.Proofs.Progress.RunIds
import Microbench.Runner.Run

/-!
# Cursors kept in files

A cursor is what it was once it has been read back, as long as the class that is open can stand in
a line. Classes come from identifiers of runs, so this is so whenever the names of benchmarks have
no line breaks in them.
-/

namespace Microbench

namespace Cursor

theorem decodeStatus_name (status : FinishStatus) :
    decodeStatus (some status.name.toList) = status := by
  cases status <;> decide

/-- The text of a cursor is read as this cursor. -/
theorem decode_encode {cursor : Cursor} (isLine : Text.IsLine cursor.openClass.toList) :
    decode cursor.encode = cursor := by
  have statusLine (status : FinishStatus) : Text.IsLine status.name.toList := by
    cases status
    · exact ⟨by decide, by decide⟩
    · exact ⟨by decide, by decide⟩
  have chars : cursor.encode.toList = cursor.openClass.toList ++ '\n' ::
      (cursor.classStatus.name.toList ++ '\n' ::
        (cursor.suiteStatus.name.toList ++ '\n' :: [])) := by
    simp [encode]
  have lines : Text.lines cursor.encode.toList =
      [cursor.openClass.toList, cursor.classStatus.name.toList,
        cursor.suiteStatus.name.toList] := by
    rw [chars, Text.lines_append isLine, Text.lines_append (statusLine _),
      Text.lines_append (statusLine _)]
    rfl
  rw [decode, lines]
  simp [decodeStatus_name]

end Cursor

namespace Text

/-- A text without line breaks. -/
def HasNoBreaks (text : String) : Prop := '\n' ∉ text.toList ∧ '\r' ∉ text.toList

instance (text : String) : Decidable (HasNoBreaks text) := by
  rw [HasNoBreaks]
  infer_instance

theorem isLine_of_prefix {text : String} (noBreaks : HasNoBreaks text) {line : List Char}
    (leading : line <+: text.toList) : IsLine line := by
  constructor
  · intro feed
    exact noBreaks.1 (leading.subset feed)
  · intro last
    exact noBreaks.2 (leading.subset (List.mem_of_getLast? last))

end Text

namespace ReporterCall

/-- A call after which the class that is open can stand in a line. -/
def IsClean : ReporterCall → Prop
  | startBenchmark _ benchmark => Text.IsLine (Structured.splitRunId benchmark).1.toList
  | _ => True

end ReporterCall

namespace Structured

theorem isLine_step {cursor : Cursor} (isLine : Text.IsLine cursor.openClass.toList)
    {call : ReporterCall} (clean : call.IsClean) :
    Text.IsLine (step cursor call).1.openClass.toList := by
  cases call with
  | startSuite suite => exact isLine
  | endSuite suite summary => exact isLine
  | endBenchmark suite benchmark status message =>
      rw [step]
      split
      · exact isLine
      · exact isLine
  | endException suite benchmark error trace => exact isLine
  | output suite benchmark message => exact isLine
  | startBenchmark suite benchmark =>
      change Text.IsLine (enterClass suite (splitRunId benchmark).1 cursor).1.openClass.toList
      rw [enterClass]
      split
      · exact isLine
      · exact clean

end Structured

namespace Reporter

/-- What a reporter of a format may have become: one that can be kept in a file. -/
def Continues (format : TraceFormat) (reporter : Reporter) : Prop :=
  match format with
  | .text => reporter = console
  | .xml => ∃ cursor, reporter = structured cursor ∧ Text.IsLine cursor.openClass.toList

variable {format : TraceFormat} {reporter : Reporter}

theorem continues_create (format : TraceFormat) : (create format).Continues format := by
  cases format with
  | text => rfl
  | xml => exact ⟨.initial, rfl, Text.isLine_nil⟩

theorem Continues.report (continues : reporter.Continues format) {call : ReporterCall}
    (clean : call.IsClean) : (reporter.report call).1.Continues format := by
  cases format with
  | text =>
      rw [Continues] at continues
      rw [continues]
      rfl
  | xml =>
      rcases continues with ⟨cursor, rfl, isLine⟩
      exact ⟨(Structured.step cursor call).1, rfl, Structured.isLine_step isLine clean⟩

theorem Continues.reportAll (continues : reporter.Continues format) {calls : List ReporterCall}
    (clean : ∀ call ∈ calls, call.IsClean) : (reporter.reportAll calls).1.Continues format := by
  induction calls generalizing reporter with
  | nil => exact continues
  | cons call calls ih =>
      rw [reportAll_cons]
      apply ih
      · exact continues.report (clean call (by simp))
      · intro other member
        exact clean other (by simp [member])

/-- A new reporter that goes on from what was kept of another one does as that one would have
done. -/
theorem restore_kept (continues : reporter.Continues format) {cursor : Cursor}
    (kept : reporter.cursor? = some cursor) :
    (create format).restore (Cursor.decode cursor.encode) = reporter := by
  cases format with
  | text =>
      rw [Continues] at continues
      rw [continues] at kept
      cases kept
  | xml =>
      rcases continues with ⟨own, rfl, isLine⟩
      rw [cursor?, Option.some.injEq] at kept
      subst kept
      rw [Cursor.decode_encode isLine]
      rfl

end Reporter

namespace PlannedRun

/-- The calls about a run are clean if the name has no line breaks in it. -/
theorem isClean_startCall {run : PlannedRun} (noBreaks : Text.HasNoBreaks run.name)
    (name : String) : (run.startCall name).IsClean :=
  Text.isLine_of_prefix noBreaks
    (Structured.splitRunId_class_prefix run.name run.parameters)

end PlannedRun

end Microbench
