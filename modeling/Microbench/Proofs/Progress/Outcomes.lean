import Mathlib.Data.List.Chain
import Microbench.Proofs.Progress.Restart
import Microbench.Proofs.Progress.Tree

/-!
# Outcomes of groups

Runs of one class in a row form a group. The reporter finds the groups while it is told of runs: a
group opens with its first run, and what opens the next one closes it. A group closes with a failure
exactly when one of its own runs has failed, and the execution when any run has.

The stream of a reporter may refuse lines. This has no influence on the reporter, so the stream gets
all the other lines as if nothing had been refused.
-/

namespace Microbench

open Structured

/-- Something that is said of a run. -/
structure Remark where
  suite : String
  benchmark : String
  text : String

namespace Remark

def call (remark : Remark) : ReporterCall := .output remark.suite remark.benchmark remark.text

def event (className : String) (remark : Remark) : Event :=
  .output className remark.benchmark (remark.text ++ "\n")

end Remark

/-- What is said of the end of a run. -/
inductive Verdict where
  | finished (suite benchmark : String) (status : FinishStatus) (message : String)
  | givenUp (suite benchmark error trace : String)

namespace Verdict

def call : Verdict → ReporterCall
  | finished suite benchmark status message => .endBenchmark suite benchmark status message
  | givenUp suite benchmark error trace => .endException suite benchmark error trace

def hasFailed : Verdict → Bool
  | finished _ _ status _ => status == .failure
  | givenUp .. => true

def events (className : String) : Verdict → List Event
  | finished _ benchmark status message =>
    [.output className benchmark (message ++ "\n\n"), .testFinish className benchmark status]
  | givenUp _ benchmark error trace => [.testFailure className benchmark error trace]

theorem tellsFailure_call (verdict : Verdict) :
    verdict.call.tellsFailure = verdict.hasFailed := by
  cases verdict with
  | finished suite benchmark status message => cases status <;> rfl
  | givenUp suite benchmark error trace => rfl

end Verdict

/-- All that is said of a run, from its start to its end. -/
structure RunReport where
  suite : String
  benchmark : String
  remarks : List Remark
  verdict : Verdict

namespace RunReport

variable (report : RunReport)

def className : String := (splitRunId report.benchmark).1

def hasFailed : Bool := report.verdict.hasFailed

def calls : List ReporterCall :=
  .startBenchmark report.suite report.benchmark :: report.remarks.map Remark.call ++
    [report.verdict.call]

/-- The events of a run inside its group. -/
def events : List Event :=
  [.testStart report.className report.className (splitRunId report.benchmark).2,
      .output report.className report.benchmark
        (report.suite ++ ": " ++ report.benchmark ++ "\n")] ++
    report.remarks.map (Remark.event report.className) ++ report.verdict.events report.className

theorem tellsFailure_calls :
    (∀ call ∈ report.calls, call.tellsFailure = false) ↔ report.hasFailed = false := by
  constructor
  · intro quiet
    rw [hasFailed, ← Verdict.tellsFailure_call]
    exact quiet _ (by simp [calls])
  · intro passed call member
    simp only [calls, List.mem_append, List.mem_cons, List.mem_map, List.not_mem_nil,
      or_false] at member
    rcases member with (rfl | ⟨remark, -, rfl⟩) | rfl
    · rfl
    · rfl
    · rwa [Verdict.tellsFailure_call]

end RunReport

namespace Structured

/-- The cursor after the end of a run. -/
def conclude (cursor : Cursor) (failed : Bool) : Cursor :=
  if failed then markFailure cursor else cursor

theorem openClass_conclude (cursor : Cursor) (failed : Bool) :
    (conclude cursor failed).openClass = cursor.openClass := by
  cases failed <;> rfl

theorem classStatus_conclude (cursor : Cursor) (failed : Bool) :
    (conclude cursor failed).classStatus = if failed then .failure else cursor.classStatus := by
  cases failed <;> rfl

theorem run_remarks (cursor : Cursor) (remarks : List Remark) :
    run cursor (remarks.map Remark.call) =
      (cursor, remarks.map (Remark.event cursor.openClass)) := by
  induction remarks with
  | nil => rfl
  | cons remark remarks ih =>
      rw [List.map_cons, run_cons, Remark.call, step, ih]
      rfl

theorem step_verdict (cursor : Cursor) (verdict : Verdict) :
    step cursor verdict.call =
      (conclude cursor verdict.hasFailed, verdict.events cursor.openClass) := by
  cases verdict with
  | finished suite benchmark status message => cases status <;> rfl
  | givenUp suite benchmark error trace => rfl

/-- A run enters its class and is told there. -/
theorem run_report (cursor : Cursor) (report : RunReport) :
    let entered := enterClass report.suite report.className cursor
    run cursor report.calls =
      (conclude entered.1 report.hasFailed, entered.2 ++ report.events) := by
  intro entered
  have isOpen : entered.1.openClass = report.className :=
    openClass_enterClass report.suite report.className cursor
  have begun : step cursor (.startBenchmark report.suite report.benchmark) =
      (entered.1, entered.2 ++
        [.testStart entered.1.openClass report.className (splitRunId report.benchmark).2,
          .output entered.1.openClass report.benchmark
            (report.suite ++ ": " ++ report.benchmark ++ "\n")]) :=
    step_startBenchmark cursor report.suite report.benchmark
  rw [RunReport.calls, List.cons_append, run_cons, begun, run_append, run_remarks, run_cons,
    step_verdict, isOpen, RunReport.events, RunReport.hasFailed]
  simp [run]

end Structured

/-- A group as the events show it, with the executions that they name around it. -/
structure ClassGroup where
  className : String
  opener : String
  closer : String
  reports : List RunReport
  status : FinishStatus

namespace ClassGroup

variable (group : ClassGroup)

/-- The events of a group until it closes. -/
def openEvents : List Event :=
  .suiteStart group.opener group.className :: group.reports.flatMap RunReport.events

def events : List Event :=
  group.openEvents ++ [.suiteFinish group.closer group.className group.status]

/-- A group has runs of its class only, opens with the first of them, and fails if one of them
does. -/
structure IsSound : Prop where
  opener : group.reports.head?.map RunReport.suite = some group.opener
  sameClass : ∀ report ∈ group.reports, report.className = group.className
  status : group.status = .failure ↔ ∃ report ∈ group.reports, report.hasFailed = true

/-- The group that opens with a run. -/
def begin (report : RunReport) : ClassGroup :=
  ⟨report.className, report.suite, "", [report], statusOf report.hasFailed⟩

/-- The group with one more run. -/
def add (report : RunReport) : ClassGroup :=
  { group with
    reports := group.reports ++ [report]
    status := if report.hasFailed then .failure else group.status }

theorem begin_isSound (report : RunReport) : (begin report).IsSound := by
  refine ⟨rfl, ?_, ?_⟩
  · intro other member
    rw [List.mem_singleton.mp member]
    rfl
  · cases failed : report.hasFailed <;> simp [begin, statusOf, failed]

variable {group}

theorem IsSound.add (isSound : group.IsSound) {report : RunReport}
    (sameClass : report.className = group.className) : (group.add report).IsSound := by
  refine ⟨?_, ?_, ?_⟩
  · change (group.reports ++ [report]).head?.map RunReport.suite = some group.opener
    have opener := isSound.opener
    cases shape : group.reports with
    | nil =>
        rw [shape] at opener
        cases opener
    | cons first others =>
        rw [shape] at opener
        exact opener
  · intro other member
    rcases List.mem_append.mp member with member | member
    · exact isSound.sameClass other member
    · rw [List.mem_singleton.mp member]
      exact sameClass
  · cases failed : report.hasFailed with
    | true => simp [ClassGroup.add, failed]
    | false => simp [ClassGroup.add, failed, isSound.status]

theorem IsSound.close (isSound : group.IsSound) (closer : String) :
    { group with closer := closer }.IsSound :=
  ⟨isSound.opener, isSound.sameClass, isSound.status⟩

end ClassGroup

/-- Runs are divided into groups, as the changes of the class demand. The execution that is named
last closes the last group. -/
structure IsGrouping (last : String) (reports : List RunReport) (groups : List ClassGroup) :
    Prop where
  reports : groups.flatMap ClassGroup.reports = reports
  sound : ∀ group ∈ groups, group.IsSound
  neighbours : groups.IsChain fun group next =>
    group.className ≠ next.className ∧ group.closer = next.opener
  closer : ∀ group ∈ groups.getLast?, group.closer = last

theorem IsGrouping.cons {last : String} {reports : List RunReport} {groups : List ClassGroup}
    {group next : ClassGroup} (isGrouping : IsGrouping last reports (next :: groups))
    (isSound : group.IsSound)
    (neighbours : group.className ≠ next.className ∧ group.closer = next.opener) :
    IsGrouping last (group.reports ++ reports) (group :: next :: groups) := by
  refine ⟨?_, ?_, ?_, ?_⟩
  · rw [List.flatMap_cons, isGrouping.reports]
  · intro other member
    rcases List.mem_cons.mp member with rfl | member
    · exact isSound
    · exact isGrouping.sound other member
  · exact List.isChain_cons_cons.mpr ⟨neighbours, isGrouping.neighbours⟩
  · rw [List.getLast?_cons_cons]
    exact isGrouping.closer

theorem IsGrouping.singleton {group : ClassGroup} (isSound : group.IsSound) :
    IsGrouping group.closer group.reports [group] := by
  refine ⟨List.flatMap_singleton .., ?_, List.isChain_singleton _, ?_⟩
  · intro other member
    rw [List.mem_singleton.mp member]
    exact isSound
  · intro other member
    cases member
    rfl

namespace Structured

/-- A group is the one whose class the cursor has open. -/
structure IsOpen (cursor : Cursor) (group : ClassGroup) : Prop where
  sound : group.IsSound
  named : group.className ≠ ""
  openClass : cursor.openClass = group.className
  classStatus : cursor.classStatus = group.status

variable {cursor : Cursor} {group : ClassGroup} {report : RunReport}

theorem IsOpen.closeClass_eq (isOpen : IsOpen cursor group) (suite : String) :
    closeClass suite cursor = [.suiteFinish suite group.className group.status] := by
  rw [closeClass, isOpen.openClass, if_neg isOpen.named, isOpen.classStatus]

/-- A run of the open class joins the open group. -/
theorem run_report_of_eq (stays : cursor.openClass = report.className) :
    run cursor report.calls = (conclude cursor report.hasFailed, report.events) := by
  have entered : enterClass report.suite report.className cursor = (cursor, []) := if_pos stays
  rw [run_report, entered, List.nil_append]

theorem IsOpen.add (isOpen : IsOpen cursor group) (stays : cursor.openClass = report.className) :
    IsOpen (conclude cursor report.hasFailed) (group.add report) where
  sound := isOpen.sound.add (stays.symm.trans isOpen.openClass)
  named := isOpen.named
  openClass := by
    rw [openClass_conclude, isOpen.openClass]
    rfl
  classStatus := by
    rw [classStatus_conclude, isOpen.classStatus]
    rfl

/-- A run of another class closes what is open, and begins a group. -/
theorem run_report_of_ne (leaves : cursor.openClass ≠ report.className) :
    run cursor report.calls =
      (conclude ⟨report.className, .success, cursor.suiteStatus⟩ report.hasFailed,
        closeClass report.suite cursor ++ (ClassGroup.begin report).openEvents) := by
  have entered : enterClass report.suite report.className cursor =
      (⟨report.className, .success, cursor.suiteStatus⟩,
        closeClass report.suite cursor ++ [.suiteStart report.suite report.className]) :=
    if_neg leaves
  rw [run_report, entered, ClassGroup.openEvents, ClassGroup.begin]
  simp

theorem isOpen_begin (isNamed : report.className ≠ "") (suiteStatus : FinishStatus) :
    IsOpen (conclude ⟨report.className, .success, suiteStatus⟩ report.hasFailed)
      (.begin report) where
  sound := ClassGroup.begin_isSound report
  named := isNamed
  openClass := by
    rw [openClass_conclude]
    rfl
  classStatus := by
    rw [classStatus_conclude]
    rfl

/-- The induction is on the runs that are left. A group is open, which the first of them joins or
closes. -/
theorem exists_groups_opened (last : String) (reports : List RunReport)
    (named : ∀ report ∈ reports, report.className ≠ "") (isOpen : IsOpen cursor group) :
    let told := run cursor (reports.flatMap RunReport.calls)
    ∃ first groups, first.className = group.className ∧ first.opener = group.opener ∧
      IsGrouping last (group.reports ++ reports) (first :: groups) ∧
      group.openEvents ++ (told.2 ++ closeClass last told.1) =
        (first :: groups).flatMap ClassGroup.events := by
  induction reports generalizing cursor group with
  | nil =>
      refine ⟨{ group with closer := last }, [], rfl, rfl, ?_, ?_⟩
      · rw [List.append_nil]
        exact .singleton (isOpen.sound.close last)
      · simp [run, isOpen.closeClass_eq, ClassGroup.events, ClassGroup.openEvents]
  | cons report reports ih =>
      rcases List.forall_mem_cons.mp named with ⟨isNamed, namedLater⟩
      rw [List.flatMap_cons, run_append]
      by_cases stays : cursor.openClass = report.className
      · rcases ih namedLater (isOpen.add stays) with
          ⟨first, groups, className, opener, isGrouping, events⟩
        refine ⟨first, groups, className, opener, ?_, ?_⟩
        · rwa [ClassGroup.add, List.append_assoc] at isGrouping
        · rw [run_report_of_eq stays, ← events]
          simp [ClassGroup.openEvents, ClassGroup.add]
      · have begun := isOpen_begin isNamed cursor.suiteStatus
        rcases ih namedLater begun with ⟨next, groups, className, opener, isGrouping, events⟩
        have neighbours : group.className ≠ next.className ∧ report.suite = next.opener := by
          rw [className, opener, ← isOpen.openClass]
          exact ⟨stays, rfl⟩
        refine ⟨{ group with closer := report.suite }, next :: groups, rfl, rfl,
          isGrouping.cons (isOpen.sound.close report.suite) neighbours, ?_⟩
        rw [run_report_of_ne stays, isOpen.closeClass_eq, List.flatMap_cons, ← events]
        simp [ClassGroup.events, ClassGroup.openEvents]

/-- Before the first run no group is open. -/
theorem exists_groups (last : String) (reports : List RunReport)
    (named : ∀ report ∈ reports, report.className ≠ "") :
    let told := run .initial (reports.flatMap RunReport.calls)
    ∃ groups, IsGrouping last reports groups ∧
      told.2 ++ closeClass last told.1 = groups.flatMap ClassGroup.events := by
  cases reports with
  | nil =>
      refine ⟨[], ⟨rfl, ?_, List.isChain_nil, ?_⟩, rfl⟩
      · intro group member
        cases member
      · intro group member
        cases member
  | cons report reports =>
      rcases List.forall_mem_cons.mp named with ⟨isNamed, namedLater⟩
      rcases exists_groups_opened last reports namedLater (isOpen_begin isNamed .success) with
        ⟨first, groups, -, -, isGrouping, events⟩
      refine ⟨first :: groups, isGrouping, ?_⟩
      have nothingOpen : closeClass report.suite .initial = [] := rfl
      rw [List.flatMap_cons, run_append, run_report_of_ne isNamed.symm, nothingOpen, ← events,
        List.nil_append, List.append_assoc]
      rfl

/-- What has failed in the calls about runs is what has failed in the runs. -/
theorem suiteStatus_run_reports (reports : List RunReport) :
    (run .initial (reports.flatMap RunReport.calls)).1.suiteStatus = .failure ↔
      ∃ report ∈ reports, report.hasFailed = true := by
  have passed : (run .initial (reports.flatMap RunReport.calls)).1.suiteStatus = .success ↔
      ∀ report ∈ reports, report.hasFailed = false := by
    rw [suiteStatus_run]
    simp only [← RunReport.tellsFailure_calls, List.mem_flatMap]
    constructor
    · intro quiet report member call isCall
      exact quiet.2 call ⟨report, member, isCall⟩
    · rintro quiet
      refine ⟨rfl, ?_⟩
      rintro call ⟨report, member, isCall⟩
      exact quiet report member call isCall
  cases status : (run .initial (reports.flatMap RunReport.calls)).1.suiteStatus with
  | success => simpa using passed.mp status
  | failure =>
      rw [status] at passed
      simpa using passed

end Structured

/-- All that is said of an execution. -/
structure ExecutionReport where
  suite : String
  reports : List RunReport
  /-- The execution that is named at the end. -/
  last : String
  summary : String

namespace ExecutionReport

variable (execution : ExecutionReport)

def calls : List ReporterCall :=
  .startSuite execution.suite :: execution.reports.flatMap RunReport.calls ++
    [.endSuite execution.last execution.summary]

/-- The events of an execution whose runs are divided into groups. -/
def events (groups : List ClassGroup) (status : FinishStatus) : List Event :=
  [.suiteStart "" rootId, .suiteStart rootId execution.suite] ++
    groups.flatMap ClassGroup.events ++
    [.output rootId execution.last (execution.summary ++ "\n"),
      .suiteFinish rootId execution.last status, .suiteFinish "" rootId status]

theorem run_calls :
    let told := run .initial (execution.reports.flatMap RunReport.calls)
    (run .initial execution.calls).2 =
      [.suiteStart "" rootId, .suiteStart rootId execution.suite] ++
        (told.2 ++ closeClass execution.last told.1) ++
        [.output rootId execution.last (execution.summary ++ "\n"),
          .suiteFinish rootId execution.last told.1.suiteStatus,
          .suiteFinish "" rootId told.1.suiteStatus] := by
  rw [calls, List.cons_append, run_cons]
  change _ ++ (run .initial _).2 = _
  rw [run_append]
  simp [run, step]

end ExecutionReport

namespace LineStream

theorem offerAll_append (stream : LineStream) (earlier later : List String) :
    stream.offerAll (earlier ++ later) = (stream.offerAll earlier).offerAll later :=
  List.foldl_append

/-- Everything that was written. -/
def text (stream : LineStream) : String := streamText stream.written ++ stream.rest

/-- What can be left of a line that is offered. -/
inductive IsPiece (line : String) : String → Prop where
  | whole : IsPiece line (line ++ "\n")
  /-- The line feed was refused. -/
  | unended : IsPiece line line
  /-- The line itself was refused. -/
  | lost : IsPiece line ""

theorem text_endLine (stream : LineStream) :
    stream.endLine.text = stream.text ++ "\n" ∨ stream.endLine.text = stream.text := by
  rw [endLine]
  split
  · exact Or.inr rfl
  · left
    simp [text, streamText, String.join_append, String.append_assoc]

/-- A line is written after what was written before, as far as it is not refused. -/
theorem exists_text_offer (stream : LineStream) (line : String) :
    ∃ piece, IsPiece line piece ∧ (stream.offer line).text = stream.text ++ piece := by
  have taken (between : LineStream) (written : between.text = stream.text ++ line) :
      ∃ piece, IsPiece line piece ∧ between.endLine.text = stream.text ++ piece := by
    rcases between.text_endLine with ended | unended
    · exact ⟨_, .whole, by rw [ended, written, String.append_assoc]⟩
    · exact ⟨_, .unended, by rw [unended, written]⟩
  rw [offer, write]
  split_ifs with empty refused
  · exact taken stream (by rw [empty, String.append_empty])
  · exact ⟨"", .lost, (String.append_empty).symm⟩
  · exact taken _ (by simp [text, String.append_assoc])

/-- What is written of each line has nothing to do with the other lines. -/
theorem exists_text_offerAll (stream : LineStream) (lines : List String) :
    ∃ pieces, List.Forall₂ IsPiece lines pieces ∧
      (stream.offerAll lines).text = stream.text ++ String.join pieces := by
  induction lines generalizing stream with
  | nil => exact ⟨[], .nil, (String.append_empty).symm⟩
  | cons line lines ih =>
      rcases stream.exists_text_offer line with ⟨piece, isPiece, first⟩
      rcases ih (stream.offer line) with ⟨pieces, arePieces, later⟩
      refine ⟨piece :: pieces, .cons isPiece arePieces, ?_⟩
      have joined : String.join (piece :: pieces) = piece ++ String.join pieces := by
        simp [String.join_cons]
      rw [joined, ← String.append_assoc, ← first]
      exact later

end LineStream

namespace Reporter

/-- Calls to a reporter that writes to a stream. -/
def tellAll (reporter : Reporter) (stream : LineStream) :
    List ReporterCall → Reporter × LineStream
  | [] => (reporter, stream)
  | call :: calls =>
    let (reporter, lines) := reporter.report call
    reporter.tellAll (stream.offerAll lines) calls

/-- Refusals do not come back to the reporter. -/
theorem tellAll_eq (reporter : Reporter) (stream : LineStream) (calls : List ReporterCall) :
    reporter.tellAll stream calls =
      ((reporter.reportAll calls).1, stream.offerAll (reporter.reportAll calls).2) := by
  induction calls generalizing reporter stream with
  | nil => rfl
  | cons call calls ih =>
      rw [reportAll_cons, LineStream.offerAll_append, tellAll]
      exact ih _ _

/-- A reporter goes on as if all had been written, whatever is refused. -/
theorem tellAll_start (reporter : Reporter) (refuses : Nat → Bool) (calls : List ReporterCall) :
    (reporter.tellAll (.start refuses) calls).1 = (reporter.reportAll calls).1 ∧
      (reporter.tellAll (.start refuses) calls).2 =
        (LineStream.start refuses).offerAll (reporter.reportAll calls).2 ∧
      ∃ pieces, List.Forall₂ LineStream.IsPiece (reporter.reportAll calls).2 pieces ∧
        (reporter.tellAll (.start refuses) calls).2.text = String.join pieces := by
  rcases (LineStream.start refuses).exists_text_offerAll (reporter.reportAll calls).2 with
    ⟨pieces, arePieces, text⟩
  have nothing : (LineStream.start refuses).text = "" := rfl
  rw [nothing, String.empty_append] at text
  rw [tellAll_eq]
  exact ⟨rfl, rfl, pieces, arePieces, text⟩

/-- Whatever is refused, an execution is told in groups that have failed if one of their runs has,
and has failed itself if any run has; the reporter goes on as if all had been written, and offers
the same lines. -/
theorem exists_groups_tellAll (execution : ExecutionReport)
    (named : ∀ report ∈ execution.reports, report.className ≠ "") :
    ∃ groups status, IsGrouping execution.last execution.reports groups ∧
      (status = .failure ↔ ∃ report ∈ execution.reports, report.hasFailed = true) ∧
      ∀ refuses : Nat → Bool,
        let lines := (execution.events groups status).map Event.text
        let told := (create .xml).tellAll (.start refuses) execution.calls
        told.1 = ((create .xml).reportAll execution.calls).1 ∧
          told.2 = (LineStream.start refuses).offerAll lines ∧
          ∃ pieces, List.Forall₂ LineStream.IsPiece lines pieces ∧
            told.2.text = String.join pieces := by
  rcases exists_groups execution.last execution.reports named with ⟨groups, isGrouping, events⟩
  refine ⟨groups, _, isGrouping, suiteStatus_run_reports execution.reports, ?_⟩
  intro refuses
  have tells := tellAll_start (create .xml) refuses execution.calls
  have offered : ((create .xml).reportAll execution.calls).2 =
      (execution.events groups
        (run .initial (execution.reports.flatMap RunReport.calls)).1.suiteStatus).map
          Event.text := by
    rw [create, reportAll_structured, execution.run_calls, events]
    rfl
  rw [offered] at tells
  exact tells

end Reporter

namespace Demonstration

/-- An execution in which a class fails and the next one does not. -/
def relieved : ExecutionReport :=
  ⟨"demo",
    [⟨"demo", "demo.Failing.run", [], .givenUp "demo" "demo.Failing.run" "exhausted" ""⟩,
      ⟨"demo", "demo.Sound.run", [⟨"demo", "demo.Sound.run", "Warm-up #0: 1 ns"⟩],
        .finished "demo" "demo.Sound.run" .success "1 ns"⟩],
    "demo", ""⟩

/-- The second class closes with a success, the execution does not. -/
theorem exists_groups_tellAll_relieved :
    (∀ report ∈ relieved.reports, report.className ≠ "") ∧
      ∃ groups, IsGrouping relieved.last relieved.reports groups ∧
        (∀ group ∈ groups, group.className = "demo.Sound" → group.status = .success) ∧
        ∀ refuses : Nat → Bool,
          let lines := (relieved.events groups .failure).map Event.text
          let told := (Reporter.create .xml).tellAll (.start refuses) relieved.calls
          told.1 = ((Reporter.create .xml).reportAll relieved.calls).1 ∧
            told.2 = (LineStream.start refuses).offerAll lines ∧
            ∃ pieces, List.Forall₂ LineStream.IsPiece lines pieces ∧
              told.2.text = String.join pieces := by
  have named : ∀ report ∈ relieved.reports, report.className ≠ "" := by decide +kernel
  have sound : ∀ report ∈ relieved.reports, report.className = "demo.Sound" →
      report.hasFailed = false := by decide +kernel
  have failing : ∃ report ∈ relieved.reports, report.hasFailed = true := by decide +kernel
  rcases Reporter.exists_groups_tellAll relieved named with
    ⟨groups, status, isGrouping, hasFailed, told⟩
  rw [hasFailed.mpr failing] at told
  refine ⟨named, groups, isGrouping, ?_, told⟩
  intro group member isSound
  cases status : group.status with
  | success => rfl
  | failure =>
      rcases (isGrouping.sound group member).status.mp status with ⟨report, inside, failed⟩
      have among : report ∈ relieved.reports := by
        rw [← isGrouping.reports]
        exact List.mem_flatMap.mpr ⟨group, member, inside⟩
      have sameClass := (isGrouping.sound group member).sameClass report inside
      rw [sound report among (sameClass.trans isSound)] at failed
      cases failed

end Demonstration

end Microbench
