import Microbench.Proofs.Progress.Calls
import Microbench.Proofs.Progress.RunIds
import Microbench.Proofs.Progress.Tree
import Microbench.Proofs.Runner.Executions

/-!
# The progress of an execution is a tree

An execution that starts with a new cursor tells the events of one tree: a group for each row of
runs of one class, and in it the runs in their order, whether they fail or not.
-/

namespace Microbench

namespace PlannedRun

open Structured

/-- What structured progress shows of a run, in an execution of some name. -/
def node (name : String) (run : PlannedRun) : RunNode where
  method := (splitRunId run.id).2
  texts := (name ++ ": " ++ run.id ++ "\n") :: run.execute.lines.map (· ++ "\n") ++
    match run.execute.outcome with
    | .ok samples => [(run.result samples).summary ++ "\n\n"]
    | .error _ => []
  ending := match run.execute.outcome with
    | .ok _ => .finished
    | .error failure => .failed failure.message failure.trace

/-- The class of a run can be told from its identifier, and is not empty. -/
structure IsClassified (run : PlannedRun) : Prop where
  named : run.planned.suite.name ≠ ""
  unmarked : ¬ " | ".toList <:+: run.name.toList

namespace IsClassified

variable {run : PlannedRun}

theorem splitRunId_fst (classified : run.IsClassified) :
    (splitRunId run.id).1 = classOf run.name :=
  splitRunId_class run.parameters classified.unmarked

theorem classOf_ne_empty (classified : run.IsClassified) : classOf run.name ≠ "" :=
  Structured.classOf_ne_empty run.planned.suite run.planned.benchmark classified.named

theorem id_node (classified : run.IsClassified) (name : String) :
    (run.node name).id (classOf run.name) = run.id := by
  have dotted := dot_mem_qualifiedName run.planned.suite run.planned.benchmark
  have joined := splitRunId_join run.parameters classified.unmarked dotted
  rw [← classified.splitRunId_fst]
  exact joined

end IsClassified

/-- Once the class of a run is entered, the events of the run are those of its node. -/
theorem run_calls {cursor : Cursor} {run : PlannedRun} (classified : run.IsClassified)
    (entered : cursor.openClass = classOf run.name) (name : String) :
    Structured.run cursor (run.calls name run.execute) =
      (if (run.node name).hasFailed then markFailure cursor else cursor,
        (run.node name).events (classOf run.name)) := by
  have id := classified.id_node name
  have sameClass := classified.splitRunId_fst
  have started : step cursor (run.startCall name) =
      (cursor,
        [.testStart (classOf run.name) (classOf run.name) (splitRunId run.id).2,
          .output (classOf run.name) run.id (name ++ ": " ++ run.id ++ "\n")]) := by
    rw [startCall, step_startBenchmark, sameClass, enterClass, if_pos entered, entered]
    rfl
  rw [calls, List.cons_append, run_cons, started, run_append, outputCalls, run_outputs, entered,
    RunNode.events, RunNode.lastEvent, id, node]
  cases outcome : run.execute.outcome with
  | ok samples =>
      simp [Structured.run, successCall, step, RunNode.hasFailed, entered]
  | error failure =>
      simp [Structured.run, failureCall, step, RunNode.hasFailed, entered]

end PlannedRun

namespace GrowingTree

open Structured PlannedRun

variable {tree : GrowingTree} {shown : List (String × RunNode)}

/-- The calls about a run add the run to the tree. -/
theorem run_calls (holds : tree.Holds shown) {run : PlannedRun} (classified : run.IsClassified)
    (name : String) :
    ∃ later, Structured.run tree.cursor (run.calls name run.execute) =
        ((tree.add (classOf run.name) (run.node name)).cursor, later) ∧
      tree.events name ++ later =
        (tree.add (classOf run.name) (run.node name)).events name := by
  rcases enterClass_cursor holds name (classOf run.name) with ⟨entry, entered, before⟩
  rcases enter_opened tree classified.classOf_ne_empty with ⟨group, opened, sameName⟩
  have openClass : (tree.enter (classOf run.name)).cursor.openClass = classOf run.name := by
    rw [cursor, opened]
    exact sameName
  have inside := PlannedRun.run_calls classified openClass name
  rw [calls, startCall] at inside ⊢
  rw [List.cons_append] at inside ⊢
  rw [run_entered, classified.splitRunId_fst, entered, inside]
  refine ⟨entry ++ (run.node name).events (classOf run.name), ?_, ?_⟩
  · rw [add, cursor_put opened]
  · rw [add, events_put opened, ← before, sameName, List.append_assoc]

/-- The tree after runs, one after the other. -/
def addAll (name : String) (runs : List PlannedRun) (tree : GrowingTree) : GrowingTree :=
  runs.foldl (fun tree run => tree.add (classOf run.name) (run.node name)) tree

/-- The calls about runs add them all. -/
theorem run_allCalls (holds : tree.Holds shown) {runs : List PlannedRun}
    (classified : ∀ run ∈ runs, run.IsClassified) (name : String) :
    (tree.addAll name runs).Holds
        (shown ++ runs.map fun run => (classOf run.name, run.node name)) ∧
      ∃ later, Structured.run tree.cursor (allCalls name runs) =
          ((tree.addAll name runs).cursor, later) ∧
        tree.events name ++ later = (tree.addAll name runs).events name := by
  induction runs generalizing tree shown with
  | nil =>
      refine ⟨?_, [], rfl, List.append_nil _⟩
      rw [List.map_nil, List.append_nil]
      exact holds
  | cons run runs ih =>
      have first := classified run (by simp)
      have others : ∀ run ∈ runs, run.IsClassified := by
        intro other member
        exact classified other (by simp [member])
      rcases run_calls holds first name with ⟨events, called, grown⟩
      rcases ih (holds.add first.classOf_ne_empty (run.node name)) others with
        ⟨holdsLater, later, calledLater, grownLater⟩
      refine ⟨?_, events ++ later, ?_, ?_⟩
      · rw [List.map_cons, List.append_cons]
        exact holdsLater
      · rw [allCalls] at calledLater
        rw [allCalls, List.flatMap_cons, run_append, called]
        simp only [calledLater]
        rfl
      · rw [← List.append_assoc, grown]
        exact grownLater

end GrowingTree

namespace ProgressTree

open Structured PlannedRun

/-- A tree shows runs in the groups of their classes: in order, under their identifiers, each row
of runs of one class in one group. -/
structure Shows (tree : ProgressTree) (name : String) (runs : List PlannedRun) : Prop where
  /-- The tree is of this execution. -/
  suite : tree.suite = name
  /-- The runs are there, each in a group of its class. -/
  shown : (tree.groups.flatMap fun group => group.runs.map (group.name, ·)) =
    runs.map fun run => (classOf run.name, run.node name)
  /-- Nodes are known by the identifiers of the runs. -/
  ids : ∀ run ∈ runs, (run.node name).id (classOf run.name) = run.id
  /-- No group is empty. -/
  solid : ∀ group ∈ tree.groups, group.runs ≠ []
  /-- Runs of one class that follow each other share a group. -/
  apart : List.IsChain (fun earlier later => earlier.name ≠ later.name) tree.groups

end ProgressTree

namespace Executor

open Structured PlannedRun

variable [PatternLanguage] [WorkingDirectory]

/-- The progress of an execution with a new reporter is one properly nested tree of its runs; an
execution that selects nothing because its selection is wrong shows nothing. -/
theorem run_nested {executor : Executor} (fresh : executor.reporter = .create .xml)
    (classified : ∀ run ∈ executor.runs, run.IsClassified) (files : FileStore) :
    (∀ error, selectRuns executor.suites executor.configuration = .error error →
      (executor.run files).lines = []) ∧
    ∀ runs, selectRuns executor.suites executor.configuration = .ok runs →
      ∃ tree : ProgressTree, (executor.run files).lines = tree.events.map Event.text ∧
        tree.Shows executor.name runs ∧ Event.nestAll [] tree.events = some [] := by
  constructor
  · intro error refused
    rw [run_of_refused refused files]
  · intro runs selected
    rw [runs_eq selected] at classified
    rcases GrowingTree.run_allCalls GrowingTree.holds_seed classified executor.name with
      ⟨holds, later, called, grown⟩
    have ended := GrowingTree.step_endSuite holds executor.name
      (ReportFormat.text.render (allResults runs))
    refine ⟨⟨executor.name, (GrowingTree.seed.addAll executor.name runs).groups,
      ReportFormat.text.render (allResults runs) ++ "\n"⟩, ?_, ?_, ProgressTree.nestAll_events _⟩
    · rw [lines_run, calls_eq selected, fresh, Reporter.create, reportAll_structured,
        List.cons_append, run_cons, run_append, endCall]
      change List.map Event.text (ProgressTree.firstEvents executor.name ++
        ((Structured.run GrowingTree.seed.cursor (allCalls executor.name runs)).2 ++
          (Structured.run (Structured.run GrowingTree.seed.cursor
            (allCalls executor.name runs)).1
              [.endSuite executor.name (ReportFormat.text.render (allResults runs))]).2)) = _
      rw [called, run_cons]
      congr 1
      rw [← ended, ← grown]
      simp [GrowingTree.events, GrowingTree.seed, Structured.run]
    · refine ⟨rfl, holds.content, ?_, holds.solid, holds.apart⟩
      intro run member
      exact (classified run member).id_node executor.name

end Executor

namespace Demonstration

theorem isClassified_executor : ∀ run ∈ executor.runs, run.IsClassified := by
  have named : ∀ run ∈ executor.runs, run.planned.suite.name ≠ "" := by decide
  have unbarred : ∀ run ∈ executor.runs, '|' ∉ run.name.toList := by decide
  intro run member
  refine ⟨named run member, ?_⟩
  intro marked
  exact unbarred run member (marked.subset (by decide))

/-- The progress of the demonstration, in which a run fails, is a tree of two runs. -/
theorem run_nested_executor :
    executor.reporter = .create .xml ∧ (∀ run ∈ executor.runs, run.IsClassified) ∧
      ∃ tree : ProgressTree, (executor.run .empty).lines = tree.events.map Event.text ∧
        tree.Shows "demo" executor.runs ∧ Event.nestAll [] tree.events = some [] := by
  have nested := Executor.run_nested rfl isClassified_executor .empty
  exact ⟨rfl, isClassified_executor, nested.2 executor.runs rfl⟩

end Demonstration

end Microbench
