import Microbench.Proofs.Progress.Lines
import Microbench.Proofs.Runner.Identifiers

/-!
# Lines of an execution

Structured progress of an execution has a line for each event exactly if nothing that goes into
identifiers breaks a line: the names of the execution, of the class that is open, of suites,
benchmarks and parameters, and the values of parameters. What runs print, how they fail and what the
summary says does not matter.
-/

namespace Microbench

open Text (IsUnbroken isUnbroken_append)

namespace ParameterSet

theorem isUnbroken_text_iff (parameters : ParameterSet) :
    IsUnbroken parameters.text ↔
      ∀ pair ∈ parameters.pairs, IsUnbroken pair.1 ∧ IsUnbroken pair.2 := by
  have equals : IsUnbroken "=" := by decide
  have comma : IsUnbroken ", " := by decide
  have later (pairs : List (String × String)) : IsUnbroken (laterText pairs) ↔
      ∀ pair ∈ pairs, IsUnbroken pair.1 ∧ IsUnbroken pair.2 := by
    induction pairs with
    | nil => simp [laterText, IsUnbroken]
    | cons pair pairs ih =>
        rw [laterText_cons]
        simp only [isUnbroken_append, equals, comma, true_and, and_true, ih, List.forall_mem_cons,
          and_assoc]
  rcases parameters with ⟨pairs⟩
  cases pairs with
  | nil => simp [text, IsUnbroken]
  | cons pair pairs =>
      rw [text_cons]
      simp only [isUnbroken_append, equals, and_true, later, List.forall_mem_cons, and_assoc]

end ParameterSet

namespace PlannedRun

/-- No name and no value in the identifier of a run breaks a line. -/
structure IsUnbroken (run : PlannedRun) : Prop where
  suite : Text.IsUnbroken run.planned.suite.name
  benchmark : Text.IsUnbroken run.planned.benchmark.name
  parameters : ∀ pair ∈ run.parameters.pairs, Text.IsUnbroken pair.1 ∧ Text.IsUnbroken pair.2

theorem isUnbroken_id_iff (run : PlannedRun) : Text.IsUnbroken run.id ↔ run.IsUnbroken := by
  have dot : Text.IsUnbroken "." := by decide
  have bar : Text.IsUnbroken " | " := by decide
  have name : Text.IsUnbroken run.name ↔
      Text.IsUnbroken run.planned.suite.name ∧ Text.IsUnbroken run.planned.benchmark.name := by
    change Text.IsUnbroken (run.planned.suite.name ++ "." ++ run.planned.benchmark.name) ↔ _
    simp only [isUnbroken_append, dot, and_true]
  have id : Text.IsUnbroken run.id ↔
      Text.IsUnbroken run.name ∧ Text.IsUnbroken run.parameters.text := by
    rw [PlannedRun.id]
    cases none : run.parameters.isEmpty with
    | true =>
        rcases runId_of_isEmpty none run.name with ⟨same, empty⟩
        rw [same, empty]
        have nothing : Text.IsUnbroken ParameterSet.empty.text := by decide
        simp only [nothing, and_true]
    | false =>
        rw [runId, none]
        simp only [Bool.false_eq_true, if_false, isUnbroken_append, bar, and_true]
  rw [id, name, ParameterSet.isUnbroken_text_iff]
  constructor
  · rintro ⟨⟨suite, benchmark⟩, parameters⟩
    exact ⟨suite, benchmark, parameters⟩
  · rintro ⟨suite, benchmark, parameters⟩
    exact ⟨⟨suite, benchmark⟩, parameters⟩

/-- The calls about a run give its identifier and the name of the execution. -/
theorem names_calls {run : PlannedRun} {name : String} :
    ∀ call ∈ run.calls name run.execute, ∀ own ∈ call.names, own = name ∨ own = run.id := by
  intro call member
  simp only [calls, List.cons_append, List.mem_cons, List.mem_append, List.not_mem_nil,
    or_false, outputCalls, List.mem_map] at member
  rcases member with rfl | ⟨line, -, rfl⟩ | rfl
  · simp [startCall, ReporterCall.names]
  · simp [ReporterCall.names]
  · cases run.execute.outcome with
    | ok samples => simp [successCall, ReporterCall.names]
    | error failure => simp [failureCall, ReporterCall.names]

end PlannedRun

namespace Executor

open Structured

variable [PatternLanguage] [WorkingDirectory]

/-- The events of an execution that goes on from a cursor. -/
def events (executor : Executor) (cursor : Cursor) (files : FileStore) : List Event :=
  (Structured.run cursor (executor.calls files)).2

/-- Nothing that goes into identifiers breaks a line. -/
structure IsUnbroken (executor : Executor) (cursor : Cursor) : Prop where
  name : Text.IsUnbroken executor.name
  openClass : Text.IsUnbroken cursor.openClass
  runs : ∀ run ∈ executor.runs, run.IsUnbroken

variable {executor : Executor} {cursor : Cursor} {runs : List PlannedRun}

theorem lines_eq_events (structured : executor.reporter = .structured cursor)
    (files : FileStore) :
    (executor.run files).lines = (executor.events cursor files).map Event.text := by
  rw [lines_run, structured, reportAll_structured, events]

theorem names_calls (selected : selectRuns executor.suites executor.configuration = .ok runs)
    (files : FileStore) : ∀ call ∈ executor.calls files, ∀ own ∈ call.names,
      own = executor.name ∨ ∃ run ∈ runs, own = run.id := by
  intro call member own inNames
  rw [calls_eq selected, List.cons_append, List.mem_cons, List.mem_append,
    List.mem_singleton] at member
  rcases member with rfl | inRuns | rfl
  · left
    simpa [ReporterCall.names] using inNames
  · rcases List.mem_flatMap.mp inRuns with ⟨run, inAll, inCalls⟩
    rcases PlannedRun.names_calls call inCalls own inNames with name | id
    · exact Or.inl name
    · exact Or.inr ⟨run, inAll, id⟩
  · left
    simpa [endCall, ReporterCall.names] using inNames

/-- The class that was open is told by the first run or, without runs, by the end. -/
theorem isUnbroken_openClass_of_fits
    (selected : selectRuns executor.suites executor.configuration = .ok runs) {files : FileStore}
    (fits : ∀ event ∈ executor.events cursor files, event.FitsLine) :
    Text.IsUnbroken cursor.openClass := by
  have second : ∃ call later, executor.calls files = .startSuite executor.name :: call :: later ∧
      ((∃ suite summary, call = .endSuite suite summary) ∨
        ∃ suite benchmark, call = .startBenchmark suite benchmark) := by
    rw [calls_eq selected]
    cases runs with
    | nil => exact ⟨_, _, rfl, Or.inl ⟨_, _, rfl⟩⟩
    | cons run runs => exact ⟨_, _, rfl, Or.inr ⟨_, _, rfl⟩⟩
  rcases second with ⟨call, later, shape, tells⟩
  rw [events, shape, run_cons, run_cons] at fits
  simp only [List.forall_mem_append] at fits
  have told := isUnbroken_openClass tells fits.2.1
  exact told

/-- All events of an execution fit their lines exactly if no identifier breaks a line. -/
theorem fitsLine_events_iff
    (selected : selectRuns executor.suites executor.configuration = .ok runs)
    (files : FileStore) :
    (∀ event ∈ executor.events cursor files, event.FitsLine) ↔ executor.IsUnbroken cursor := by
  have calls := calls_eq selected files
  constructor
  · intro fits
    have nodes := isUnbroken_node fits
    constructor
    case name => exact nodes (.startSuite executor.name) (by simp [calls])
    case openClass => exact isUnbroken_openClass_of_fits selected fits
    case runs =>
      intro run member
      rw [runs_eq selected] at member
      rw [← PlannedRun.isUnbroken_id_iff]
      apply nodes (run.startCall executor.name)
      rw [calls]
      apply List.mem_append_left
      apply List.mem_cons_of_mem
      apply List.mem_flatMap.mpr
      exact ⟨run, member, List.mem_cons_self⟩
  · intro unbroken
    apply fitsLine_run unbroken.openClass
    intro call member own inNames
    rcases names_calls selected files call member own inNames with rfl | ⟨run, inRuns, rfl⟩
    · exact unbroken.name
    · rw [PlannedRun.isUnbroken_id_iff]
      rw [← runs_eq selected] at inRuns
      exact unbroken.runs run inRuns

/-- Splitting structured progress at line feeds gives its events, one in each line, exactly if
nothing that goes into identifiers breaks a line; otherwise there are more lines than events. -/
theorem fillLines_iff_isUnbroken (structured : executor.reporter = .structured cursor)
    (files : FileStore) :
    (∀ error, selectRuns executor.suites executor.configuration = .error error →
      (executor.run files).lines = []) ∧
    ∀ runs, selectRuns executor.suites executor.configuration = .ok runs →
      let events := executor.events cursor files
      let stream := streamText (executor.run files).lines
      (Event.FillLines events stream ↔ executor.IsUnbroken cursor) ∧
        (¬ executor.IsUnbroken cursor →
          events.length + 1 < (Text.splitAll '\n' stream.toList).length) := by
  constructor
  · intro error refused
    rw [run_of_refused refused files]
  · intro runs selected events stream
    have fits : (∀ event ∈ events, event.FitsLine) ↔ executor.IsUnbroken cursor :=
      fitsLine_events_iff selected files
    have lines : stream = streamText (events.map Event.text) := by
      rw [← lines_eq_events structured files]
    rw [lines, ← fits]
    exact ⟨Event.fillLines_iff, Event.length_lt_of_not_fitsLine⟩

end Executor

namespace Demonstration

/-- Marks of elements and carriage returns in values break no line. -/
theorem fillLines_grid :
    let executor := gridExecutor ["<'1'>", "1\r2"] ["1"]
    executor.reporter = .structured .initial ∧ executor.IsUnbroken .initial ∧
      Event.FillLines (executor.events .initial .empty)
        (streamText (executor.run .empty).lines) := by
  intro executor
  have ids : ∀ run ∈ executor.runs, IsUnbroken run.id := by decide
  have unbroken : executor.IsUnbroken .initial := by
    constructor
    case name => decide
    case openClass => decide
    case runs =>
      intro run member
      exact run.isUnbroken_id_iff.mp (ids run member)
  have lines := @Executor.fillLines_iff_isUnbroken _ _ executor .initial rfl .empty
  exact ⟨rfl, unbroken, (lines.2 executor.runs rfl).1.mpr unbroken⟩

/-- A line feed in the value of a parameter breaks the lines of the events about its runs. -/
theorem not_fillLines_grid :
    let executor := gridExecutor ["1", "1\n2"] ["1"]
    executor.reporter = .structured .initial ∧
      (∃ runs, selectRuns executor.suites executor.configuration = .ok runs ∧ runs.length = 2) ∧
      ¬ Event.FillLines (executor.events .initial .empty)
        (streamText (executor.run .empty).lines) := by
  intro executor
  have selected : selectRuns executor.suites executor.configuration = .ok executor.runs := rfl
  refine ⟨rfl, ⟨executor.runs, selected, by decide⟩, ?_⟩
  intro fill
  rw [Executor.lines_eq_events rfl, Event.fillLines_iff,
    Executor.fitsLine_events_iff selected] at fill
  have broken : ∃ run ∈ executor.runs, ¬ IsUnbroken run.id := by decide
  rcases broken with ⟨run, member, breaks⟩
  exact breaks (run.isUnbroken_id_iff.mpr (fill.runs run member))

end Demonstration

end Microbench
