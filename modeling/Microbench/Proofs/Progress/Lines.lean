import Mathlib.Tactic.ByContra
import Microbench.Proofs.Progress.Calls
import Microbench.Proofs.Progress.RunIds
import Microbench.Proofs.Runner.Executions
import Microbench.Proofs.Text.Base64

/-!
# One line for each event

A host program reads structured progress line by line. Free text travels in Base64, which has no
line feeds, so messages, stack traces and summaries never break a line. Identifiers are attributes:
only the five special characters are replaced in them, and a line feed stays what it is. So each
event has a line of its own exactly if no name that occurs in identifiers has a line feed in it,
neither of the execution, of a suite, a benchmark or a parameter nor a parameter's value.
-/

namespace Microbench

theorem toList_streamText (lines : List String) :
    (streamText lines).toList = lines.flatMap fun line => line.toList ++ ['\n'] := by
  induction lines with
  | nil => rfl
  | cons line lines ih =>
      rw [streamText] at ih
      simp [streamText, ih]

/-- Lines are told from each other by their ends if they have no line feeds in them. -/
theorem splitAll_streamText {lines : List String} (unbroken : ∀ line ∈ lines, '\n' ∉ line.toList) :
    Text.splitAll '\n' (streamText lines).toList = lines.map String.toList ++ [[]] := by
  have ends : (lines.flatMap fun line => line.toList ++ ['\n']) =
      (lines.map String.toList).flatMap fun line => line ++ ['\n'] := by
    rw [List.flatMap_map]
  rw [toList_streamText, ends]
  apply Text.splitAll_flatMap
  simpa using unbroken

/-- A line feed in a line makes two of it. -/
theorem length_splitAll_streamText {lines : List String} {line : String} (member : line ∈ lines)
    (broken : '\n' ∈ line.toList) :
    lines.length + 1 < (Text.splitAll '\n' (streamText lines).toList).length := by
  have atLeast (lines : List String) : lines.length ≤ (streamText lines).toList.count '\n' := by
    rw [toList_streamText]
    induction lines with
    | nil => simp
    | cons line lines ih =>
        rw [List.flatMap_cons, List.count_append, List.count_append, List.length_cons]
        simp only [List.count_singleton_self]
        omega
  rw [Text.length_splitAll]
  -- The line feed in this line comes on top of those that end the lines.
  rcases List.append_of_mem member with ⟨earlier, later, rfl⟩
  have before := atLeast earlier
  have after := atLeast later
  have own := List.count_pos_iff.mpr broken
  rw [toList_streamText] at before after ⊢
  simp only [List.flatMap_append, List.flatMap_cons, List.count_append, List.length_append,
    List.length_cons, List.count_singleton_self]
  omega

theorem Base64.feed_notMem_encode (bytes : List UInt8) : '\n' ∉ encode bytes :=
  notMem_encode (by decide) (by decide) bytes

open Text (IsUnbroken isUnbroken_append)

namespace Event

theorem isUnbroken_escape {text : String} : IsUnbroken (escape text) ↔ IsUnbroken text := by
  have kept (char : Char) : '\n' ∈ escapeChar char ↔ char = '\n' := by
    rw [escapeChar]
    by_cases special : char ∈ ['&', '<', '>', '\'', '"']
    · simp only [List.mem_cons, List.not_mem_nil, or_false] at special
      rcases special with rfl | rfl | rfl | rfl | rfl <;> decide
    · simp only [List.mem_cons, List.not_mem_nil, or_false, not_or] at special
      simp [special, eq_comm]
  simp [IsUnbroken, escape, kept]

theorem isUnbroken_section64 (text : String) : IsUnbroken (section64 text) := by
  have encoded : IsUnbroken (String.ofList (Base64.encodeText text)) := by
    rw [IsUnbroken, String.toList_ofList]
    exact Base64.feed_notMem_encode _
  rw [section64, isUnbroken_append, isUnbroken_append]
  exact ⟨⟨by decide, encoded⟩, by decide⟩

/-- The identifiers in an event do not break its line. -/
def FitsLine (event : Event) : Prop := IsUnbroken event.id ∧ IsUnbroken event.parent

theorem isUnbroken_resultHead (status : FinishStatus) : IsUnbroken (resultHead status) := by
  cases status
  · decide
  · decide

theorem isUnbroken_body {event : Event} (unbroken : IsUnbroken event.id) :
    IsUnbroken event.body := by
  cases event with
  | suiteStart parent id =>
      change IsUnbroken ("<descriptor name='" ++ escape id ++ "'/>")
      rw [isUnbroken_append, isUnbroken_append, isUnbroken_escape]
      exact ⟨⟨by decide, unbroken⟩, by decide⟩
  | suiteFinish parent id status =>
      exact isUnbroken_append.mpr ⟨isUnbroken_resultHead status, by decide⟩
  | testStart parent className method =>
      change IsUnbroken ("<descriptor name='" ++ escape method ++ "' className='" ++
        escape className ++ "' />")
      rw [Event.id] at unbroken
      simp only [isUnbroken_append, isUnbroken_escape] at unbroken ⊢
      exact ⟨⟨⟨⟨by decide, unbroken.2⟩, by decide⟩, unbroken.1.1⟩, by decide⟩
  | testFinish parent id status =>
      exact isUnbroken_append.mpr ⟨isUnbroken_resultHead status, by decide⟩
  | testFailure parent id error trace =>
      change IsUnbroken (resultHead .failure ++ "><errorMsg>" ++ section64 error ++
        "</errorMsg><stackTrace>" ++ section64 trace ++ "</stackTrace></result>")
      simp only [isUnbroken_append]
      exact ⟨⟨⟨⟨⟨isUnbroken_resultHead .failure, by decide⟩, isUnbroken_section64 error⟩,
        by decide⟩, isUnbroken_section64 trace⟩, by decide⟩
  | output parent id text =>
      change IsUnbroken ("<event destination='StdOut'>" ++ section64 text ++ "</event>")
      rw [isUnbroken_append, isUnbroken_append]
      exact ⟨⟨by decide, isUnbroken_section64 text⟩, by decide⟩

theorem isUnbroken_kind (event : Event) : IsUnbroken event.kind := by
  cases event
  all_goals
    rw [kind]
    decide

theorem text_eq (event : Event) : event.text =
    "<ijLog><event type='" ++ event.kind ++ "'><test id='" ++ escape event.id ++
      "' parentId='" ++ escape event.parent ++ "'>" ++ event.body ++ "</test></event></ijLog>" :=
  rfl

/-- Whatever is told by an event, only its identifiers can break its line. -/
theorem isUnbroken_text_iff (event : Event) : IsUnbroken event.text ↔ event.FitsLine := by
  rw [text_eq, FitsLine]
  simp only [isUnbroken_append, isUnbroken_escape]
  constructor
  · rintro ⟨⟨⟨⟨⟨⟨-, id⟩, -⟩, parent⟩, -⟩, -⟩, -⟩
    exact ⟨id, parent⟩
  · rintro ⟨id, parent⟩
    have kind := isUnbroken_kind event
    have body := isUnbroken_body id
    exact ⟨⟨⟨⟨⟨⟨⟨⟨by decide, kind⟩, by decide⟩, id⟩, by decide⟩, parent⟩, by decide⟩, body⟩,
      by decide⟩

/-- A text that is an element for the host program. -/
def IsElement (text : String) : Prop :=
  "<ijLog>".toList <+: text.toList ∧ "</ijLog>".toList <:+ text.toList

theorem isElement_text (event : Event) : IsElement event.text := by
  have opened : "<ijLog><event type='" = "<ijLog>" ++ "<event type='" := by decide
  have closed : "</test></event></ijLog>" = "</test></event>" ++ "</ijLog>" := by decide
  rw [text_eq, opened, closed]
  constructor
  · simp only [String.toList_append, List.append_assoc]
    exact List.prefix_append _ _
  · simp only [String.toList_append, ← List.append_assoc]
    exact List.suffix_append _ _

end Event

namespace Structured

theorem isUnbroken_splitRunId {id : String} (unbroken : IsUnbroken id) :
    IsUnbroken (splitRunId id).1 ∧ IsUnbroken (splitRunId id).2 := by
  have leading : nameIn id.toList <+: id.toList := by
    rw [nameIn]
    split
    · rename_i name rest found
      rw [Text.splitAtFirst?_eq_some found, List.append_assoc]
      exact List.prefix_append _ _
    · exact List.prefix_rfl
  cases found : Text.splitLast? '.' (nameIn id.toList) with
  | none =>
      rw [splitRunId_of_none found]
      have nothing : IsUnbroken "" := by decide
      exact ⟨nothing, unbroken⟩
  | some parts =>
      rw [splitRunId_of_some found]
      have shape := Text.splitLast?_eq_some found
      constructor
      · apply unbroken.of_subset
        rw [String.toList_ofList]
        intro char inside
        exact leading.subset (by simp [shape, inside])
      · apply unbroken.of_subset
        rw [String.toList_ofList]
        exact List.drop_subset _ _

end Structured

namespace ReporterCall

/-- The name of the execution, and the identifier of the run that a call is about. -/
def names : ReporterCall → List String
  | startSuite suite => [suite]
  | endSuite suite _ => [suite]
  | startBenchmark suite benchmark => [suite, benchmark]
  | endBenchmark suite benchmark _ _ => [suite, benchmark]
  | endException suite benchmark _ _ => [suite, benchmark]
  | output suite benchmark _ => [suite, benchmark]

/-- The node that a call is about. -/
def node : ReporterCall → String
  | startSuite suite => suite
  | endSuite suite _ => suite
  | startBenchmark _ benchmark => benchmark
  | endBenchmark _ benchmark _ _ => benchmark
  | endException _ benchmark _ _ => benchmark
  | output _ benchmark _ => benchmark

end ReporterCall

namespace Structured

open Event

variable {cursor : Cursor} {call : ReporterCall} {calls : List ReporterCall}

theorem fitsLine_closeClass (unbroken : IsUnbroken cursor.openClass) {suite : String}
    (suiteUnbroken : IsUnbroken suite) : ∀ event ∈ closeClass suite cursor, event.FitsLine := by
  intro event member
  rw [closeClass] at member
  split at member
  · cases member
  · rw [List.mem_singleton.mp member]
    exact ⟨unbroken, suiteUnbroken⟩

theorem fitsLine_enterClass (unbroken : IsUnbroken cursor.openClass) {suite className : String}
    (suiteUnbroken : IsUnbroken suite) (classUnbroken : IsUnbroken className) :
    ∀ event ∈ (enterClass suite className cursor).2, event.FitsLine := by
  rw [enterClass]
  split
  · simp
  · rw [List.forall_mem_append, List.forall_mem_singleton]
    exact ⟨fitsLine_closeClass unbroken suiteUnbroken, classUnbroken, suiteUnbroken⟩

/-- A call with names that break no line has no event that does, and opens no class that would. -/
theorem fitsLine_step (unbroken : IsUnbroken cursor.openClass)
    (names : ∀ name ∈ call.names, IsUnbroken name) :
    IsUnbroken (step cursor call).1.openClass ∧
      ∀ event ∈ (step cursor call).2, event.FitsLine := by
  have root : IsUnbroken rootId := by decide
  have nothing : IsUnbroken "" := by decide
  cases call with
  | startSuite suite =>
      have suiteUnbroken := names suite (by simp [ReporterCall.names])
      refine ⟨unbroken, ?_⟩
      simp only [step, List.forall_mem_cons, List.not_mem_nil, false_implies, implies_true,
        and_true]
      exact ⟨⟨root, nothing⟩, ⟨suiteUnbroken, root⟩⟩
  | endSuite suite summary =>
      have suiteUnbroken := names suite (by simp [ReporterCall.names])
      refine ⟨unbroken, ?_⟩
      simp only [step, List.forall_mem_append, List.forall_mem_cons, List.not_mem_nil,
        false_implies, implies_true, and_true]
      exact ⟨fitsLine_closeClass unbroken suiteUnbroken, ⟨suiteUnbroken, root⟩,
        ⟨suiteUnbroken, root⟩, ⟨root, nothing⟩⟩
  | startBenchmark suite benchmark =>
      have suiteUnbroken := names suite (by simp [ReporterCall.names])
      have idUnbroken := names benchmark (by simp [ReporterCall.names])
      have parts := isUnbroken_splitRunId idUnbroken
      have entered := fitsLine_enterClass unbroken suiteUnbroken parts.1
      have nowOpen := openClass_enterClass suite (splitRunId benchmark).1 cursor
      have joined : IsUnbroken ((splitRunId benchmark).1 ++ "." ++ (splitRunId benchmark).2) := by
        rw [isUnbroken_append, isUnbroken_append]
        exact ⟨⟨parts.1, by decide⟩, parts.2⟩
      rw [step_startBenchmark, nowOpen]
      refine ⟨parts.1, ?_⟩
      rw [List.forall_mem_append]
      refine ⟨entered, ?_⟩
      simp only [List.forall_mem_cons, List.not_mem_nil, false_implies, implies_true, and_true]
      exact ⟨⟨joined, parts.1⟩, ⟨idUnbroken, parts.1⟩⟩
  | endBenchmark suite benchmark status message =>
      have idUnbroken := names benchmark (by simp [ReporterCall.names])
      constructor
      · rw [step]
        split
        · exact unbroken
        · exact unbroken
      · simp only [step, List.forall_mem_cons, List.not_mem_nil, false_implies, implies_true,
          and_true]
        exact ⟨⟨idUnbroken, unbroken⟩, ⟨idUnbroken, unbroken⟩⟩
  | endException suite benchmark error trace =>
      have idUnbroken := names benchmark (by simp [ReporterCall.names])
      refine ⟨unbroken, ?_⟩
      simp only [step, List.forall_mem_singleton]
      exact ⟨idUnbroken, unbroken⟩
  | output suite benchmark message =>
      have idUnbroken := names benchmark (by simp [ReporterCall.names])
      refine ⟨unbroken, ?_⟩
      simp only [step, List.forall_mem_singleton]
      exact ⟨idUnbroken, unbroken⟩

theorem fitsLine_run (unbroken : IsUnbroken cursor.openClass)
    (names : ∀ call ∈ calls, ∀ name ∈ call.names, IsUnbroken name) :
    ∀ event ∈ (run cursor calls).2, event.FitsLine := by
  induction calls generalizing cursor with
  | nil => simp [run]
  | cons call calls ih =>
      rw [List.forall_mem_cons] at names
      rcases fitsLine_step unbroken names.1 with ⟨later, events⟩
      rw [run_cons, List.forall_mem_append]
      exact ⟨events, ih later names.2⟩

/-- Each call has an event of its own, which tells what the call is about. -/
theorem exists_event_step (cursor : Cursor) (call : ReporterCall) :
    ∃ event ∈ (step cursor call).2, event.id = call.node := by
  cases call with
  | startSuite suite => exact ⟨.suiteStart rootId suite, by simp [step], rfl⟩
  | endSuite suite summary =>
      exact ⟨.output rootId suite (summary ++ "\n"), by simp [step], rfl⟩
  | startBenchmark suite benchmark =>
      refine ⟨.output (enterClass suite (splitRunId benchmark).1 cursor).1.openClass benchmark
        (suite ++ ": " ++ benchmark ++ "\n"), ?_, rfl⟩
      simp [step_startBenchmark]
  | endBenchmark suite benchmark status message =>
      exact ⟨.testFinish cursor.openClass benchmark status, by simp [step], rfl⟩
  | endException suite benchmark error trace =>
      exact ⟨.testFailure cursor.openClass benchmark error trace, by simp [step], rfl⟩
  | output suite benchmark message =>
      exact ⟨.output cursor.openClass benchmark (message ++ "\n"), by simp [step], rfl⟩

theorem isUnbroken_node (fits : ∀ event ∈ (run cursor calls).2, event.FitsLine) :
    ∀ call ∈ calls, IsUnbroken call.node := by
  induction calls generalizing cursor with
  | nil => simp
  | cons call calls ih =>
      rw [run_cons, List.forall_mem_append] at fits
      rw [List.forall_mem_cons]
      refine ⟨?_, ih fits.2⟩
      rcases exists_event_step cursor call with ⟨event, member, same⟩
      rw [← same]
      exact (fits.1 event member).1

theorem isUnbroken_of_closeClass {suite : String}
    (fits : ∀ event ∈ closeClass suite cursor, event.FitsLine) : IsUnbroken cursor.openClass := by
  rw [closeClass] at fits
  split at fits
  · rename_i none
    rw [none]
    decide
  · exact (fits _ (List.mem_singleton_self _)).1

/-- The class that was open is told when a run starts, and when an execution ends. -/
theorem isUnbroken_openClass
    (tells : (∃ suite summary, call = .endSuite suite summary) ∨
      ∃ suite benchmark, call = .startBenchmark suite benchmark)
    (fits : ∀ event ∈ (step cursor call).2, event.FitsLine) : IsUnbroken cursor.openClass := by
  rcases tells with ⟨suite, summary, rfl⟩ | ⟨suite, benchmark, rfl⟩
  · simp only [step, List.forall_mem_append] at fits
    exact isUnbroken_of_closeClass fits.1
  · rw [step_startBenchmark, openClass_enterClass, List.forall_mem_append] at fits
    by_cases same : cursor.openClass = (splitRunId benchmark).1
    · rw [same]
      exact (fits.2 _ List.mem_cons_self).2
    · rw [enterClass, if_neg same] at fits
      exact isUnbroken_of_closeClass (List.forall_mem_append.mp fits.1).1

end Structured

namespace Event

/-- Events take one line each of a stream, and each of the lines is one element. -/
structure FillLines (events : List Event) (stream : String) : Prop where
  lines : Text.splitAll '\n' stream.toList = events.map (fun event => event.text.toList) ++ [[]]
  elements : ∀ event ∈ events, IsElement event.text

variable {events : List Event}

theorem fillLines_of_fitsLine (fits : ∀ event ∈ events, event.FitsLine) :
    FillLines events (streamText (events.map text)) := by
  constructor
  case lines =>
    rw [splitAll_streamText]
    · rw [List.map_map]
      rfl
    · intro line member
      rcases List.mem_map.mp member with ⟨event, inEvents, rfl⟩
      exact (isUnbroken_text_iff event).mpr (fits event inEvents)
  case elements => exact fun event _ => isElement_text event

/-- With an event that breaks its line, a stream has more lines than events. -/
theorem length_lt_of_not_fitsLine (breaks : ¬ ∀ event ∈ events, event.FitsLine) :
    events.length + 1 <
      (Text.splitAll '\n' (streamText (events.map text)).toList).length := by
  push Not at breaks
  rcases breaks with ⟨event, member, breaks⟩
  rw [← isUnbroken_text_iff, IsUnbroken, not_not] at breaks
  have longer := length_splitAll_streamText (List.mem_map_of_mem member) breaks
  rwa [List.length_map] at longer

theorem fillLines_iff :
    FillLines events (streamText (events.map text)) ↔ ∀ event ∈ events, event.FitsLine := by
  constructor
  · intro fill
    by_contra breaks
    have longer := length_lt_of_not_fitsLine breaks
    rw [fill.lines] at longer
    simp at longer
  · exact fillLines_of_fitsLine

end Event

end Microbench
