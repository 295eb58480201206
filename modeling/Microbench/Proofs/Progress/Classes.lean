import Microbench.Proofs.Progress.Restart
import Microbench.Proofs.Progress.RunIds

/-!
# Runs of one benchmark

The runs of a benchmark differ in the values of their parameters, which may be any texts. The class
does not depend on them: it is what stands before the last dot of the benchmark's name, and the rest
of the identifier is the identifier that the name without its class would have.

So the first run of a benchmark enters its class, and no other run of the benchmark leaves it; and
whatever is told of a run is told of the node that its start has opened.
-/

namespace Microbench

/-- Whether an event opens or closes what is around runs. -/
def Event.isBorder : Event → Bool
  | suiteStart .. => true
  | suiteFinish .. => true
  | testStart .. => false
  | testFinish .. => false
  | testFailure .. => false
  | output .. => false

theorem runId_append (before name : String) (parameters : ParameterSet) :
    runId (before ++ name) parameters = before ++ runId name parameters := by
  rw [runId, runId]
  split
  · rfl
  · rw [String.append_assoc, String.append_assoc, String.append_assoc]

namespace Structured

/-- The parts of a name that has a dot in it. -/
theorem exists_last_dot {name : String} (dotted : '.' ∈ name.toList) :
    ∃ className benchmark : String, name = className ++ "." ++ benchmark ∧
      '.' ∉ benchmark.toList := by
  rcases Text.exists_last_of_mem dotted with ⟨before, after, shape, absent⟩
  refine ⟨.ofList before, .ofList after, ?_, ?_⟩
  · rw [← String.toList_inj, shape]
    simp
  · rw [String.toList_ofList]
    exact absent

theorem classOf_append {className benchmark : String} (dotless : '.' ∉ benchmark.toList) :
    classOf (className ++ "." ++ benchmark) = className := by
  have chars : (className ++ "." ++ benchmark).toList =
      className.toList ++ '.' :: benchmark.toList := by
    simp
  rw [classOf, chars, Text.splitLast?_last dotless]
  simp

/-- Class and method of a run: only the method has to do with the parameters. -/
theorem splitRunId_runId {className benchmark : String} (dotless : '.' ∉ benchmark.toList)
    (unmarked : ¬ " | ".toList <:+: (className ++ "." ++ benchmark).toList)
    (parameters : ParameterSet) :
    splitRunId (runId (className ++ "." ++ benchmark) parameters) =
      (className, runId benchmark parameters) := by
  have dotted : '.' ∈ (className ++ "." ++ benchmark).toList := by simp
  have found := (splitRunId_class parameters unmarked).trans (classOf_append dotless)
  have joined := splitRunId_join parameters unmarked dotted
  rw [found, runId_append, String.append_right_inj] at joined
  rw [runId_append] at found ⊢
  exact Prod.ext found joined

variable {cursor : Cursor} {call : ReporterCall} {id : String}

theorem isBorder_enterClass {suite className : String} :
    ∀ event ∈ (enterClass suite className cursor).2, event.isBorder = true := by
  rw [enterClass, closeClass]
  split
  · simp
  · split <;> simp [Event.isBorder]

/-- What is told of a run is told of one node, in the class that is open then. -/
theorem event_of_run (about : call.run? = some id)
    (joined : (splitRunId id).1 ++ "." ++ (splitRunId id).2 = id) :
    ∀ event ∈ (step cursor call).2, event.isBorder = false →
      event.parent = (step cursor call).1.openClass ∧ event.id = id := by
  intro event member inner
  cases call with
  | startSuite suite => cases about
  | endSuite suite summary => cases about
  | startBenchmark suite benchmark =>
      cases about
      rw [step_startBenchmark] at member ⊢
      -- Entering the class is told by borders only.
      rcases List.mem_append.mp member with border | told
      · rw [isBorder_enterClass event border] at inner
        cases inner
      · simp only [List.mem_cons, List.not_mem_nil, or_false] at told
        rcases told with rfl | rfl
        · exact ⟨rfl, joined⟩
        · exact ⟨rfl, rfl⟩
  | endBenchmark suite benchmark status message =>
      cases about
      have sameClass : (step cursor (.endBenchmark suite id status message)).1.openClass =
          cursor.openClass := openClass_step cursor _
      rw [sameClass]
      simp only [step, List.mem_cons, List.not_mem_nil, or_false] at member
      rcases member with rfl | rfl
      · exact ⟨rfl, rfl⟩
      · exact ⟨rfl, rfl⟩
  | endException suite benchmark error trace =>
      cases about
      rw [step, List.mem_singleton] at member
      rw [member]
      exact ⟨rfl, rfl⟩
  | output suite benchmark message =>
      cases about
      rw [step, List.mem_singleton] at member
      rw [member]
      exact ⟨rfl, rfl⟩

/-- Calls about a run of the open class do not open or close anything around it. -/
theorem isBorder_of_run (about : call.run? = some id)
    (stays : (splitRunId id).1 = cursor.openClass) :
    ∀ event ∈ (step cursor call).2, event.isBorder = false := by
  cases call with
  | startSuite suite => cases about
  | endSuite suite summary => cases about
  | startBenchmark suite benchmark =>
      cases about
      have entered : enterClass suite (splitRunId id).1 cursor = (cursor, []) :=
        if_pos stays.symm
      rw [step_startBenchmark, entered]
      simp [Event.isBorder]
  | endBenchmark suite benchmark status message => simp [step, Event.isBorder]
  | endException suite benchmark error trace => simp [step, Event.isBorder]
  | output suite benchmark message => simp [step, Event.isBorder]

/-- A call about a run enters the class of this run, if any. -/
theorem class?_of_run (about : call.run? = some id) :
    ∀ entered ∈ call.class?, entered = (splitRunId id).1 := by
  intro entered isClass
  cases call with
  | startBenchmark suite benchmark =>
      cases about
      cases isClass
      rfl
  | startSuite suite => cases isClass
  | endSuite suite summary => cases isClass
  | endBenchmark suite benchmark status message => cases isClass
  | endException suite benchmark error trace => cases isClass
  | output suite benchmark message => cases isClass

variable {className : String}

theorem openClass_step_of_run (isOpen : cursor.openClass = className)
    (about : call.run? = some id) (sameClass : (splitRunId id).1 = className) :
    (step cursor call).1.openClass = className := by
  rw [openClass_step]
  cases isClass : call.class? with
  | none => exact isOpen
  | some entered => rw [Option.getD_some, class?_of_run about entered isClass, sameClass]

/-- The open class stays open while calls are about its runs only. -/
theorem openClass_run_of_runs {calls : List ReporterCall} (isOpen : cursor.openClass = className)
    (about : ∀ call ∈ calls, ∃ id, call.run? = some id ∧ (splitRunId id).1 = className) :
    (run cursor calls).1.openClass = className := by
  induction calls generalizing cursor with
  | nil => exact isOpen
  | cons call calls ih =>
      rw [List.forall_mem_cons] at about
      rcases about with ⟨⟨id, aboutRun, sameClass⟩, others⟩
      exact ih (openClass_step_of_run isOpen aboutRun sameClass) others

/-- What is told of the runs of a benchmark while their class is open: nothing opens or closes, and
each event is about the node of its own run. -/
structure IsInClass (name className : String) (cursor : Cursor) : Prop where
  openClass : cursor.openClass = className
  told : ∀ call parameters, call.run? = some (runId name parameters) →
    ∀ event ∈ (step cursor call).2, event.isBorder = false ∧ event.parent = className ∧
      event.id = runId name parameters

section Benchmark

variable {name : String} (dotted : '.' ∈ name.toList) (unmarked : ¬ " | ".toList <:+: name.toList)

include dotted unmarked

theorem isInClass_of_openClass (isOpen : cursor.openClass = classOf name) :
    IsInClass name (classOf name) cursor := by
  refine ⟨isOpen, ?_⟩
  intro call parameters about event member
  have sameClass := splitRunId_class parameters unmarked
  have inner := isBorder_of_run about (sameClass.trans isOpen.symm) event member
  have stays := openClass_step_of_run isOpen about sameClass
  have told := event_of_run about (splitRunId_join parameters unmarked dotted) event member inner
  exact ⟨inner, told.1.trans stays, told.2⟩

end Benchmark

/-- The start of a run tells of the run in its own class. -/
theorem told_startBenchmark (cursor : Cursor) (suite : String)
    (joined : (splitRunId id).1 ++ "." ++ (splitRunId id).2 = id) :
    let started := step cursor (.startBenchmark suite id)
    started.1.openClass = (splitRunId id).1 ∧
      .testStart (splitRunId id).1 (splitRunId id).1 (splitRunId id).2 ∈ started.2 ∧
      ∀ event ∈ started.2, event.isBorder = false →
        event.parent = (splitRunId id).1 ∧ event.id = id := by
  intro started
  have entered : started.1.openClass = (splitRunId id).1 :=
    openClass_step cursor (.startBenchmark suite id)
  have about : (ReporterCall.startBenchmark suite id).run? = some id := rfl
  refine ⟨entered, ?_, ?_⟩
  · simp [started, step_startBenchmark, openClass_enterClass]
  · intro event member inner
    rw [← entered]
    exact event_of_run about joined event member inner

/-- The identifier of a run has the class before the last dot of the name, whatever the parameters
are. So the first run of a benchmark enters the class for all of its runs, which are told there
under their identifiers from their start on. -/
theorem combinations_share_class {name : String} (dotted : '.' ∈ name.toList)
    (unmarked : ¬ " | ".toList <:+: name.toList) :
    ∃ className benchmark : String, name = className ++ "." ++ benchmark ∧
      '.' ∉ benchmark.toList ∧
      (∀ parameters, splitRunId (runId name parameters) = (className, runId benchmark parameters) ∧
        className ++ "." ++ runId benchmark parameters = runId name parameters) ∧
      ∀ cursor suite first calls,
        (∀ call ∈ calls, ∃ parameters, call.run? = some (runId name parameters)) →
          let started := step cursor (.startBenchmark suite (runId name first))
          .testStart className className (runId benchmark first) ∈ started.2 ∧
            (∀ event ∈ started.2, event.isBorder = false →
              event.parent = className ∧ event.id = runId name first) ∧
            IsInClass name className (run started.1 calls).1 := by
  rcases exists_last_dot dotted with ⟨className, benchmark, rfl, dotless⟩
  have split := splitRunId_runId dotless unmarked
  refine ⟨className, benchmark, rfl, dotless, ?_, ?_⟩
  · intro parameters
    exact ⟨split parameters, (runId_append _ _ parameters).symm⟩
  · intro cursor suite first calls about
    rcases told_startBenchmark cursor suite (splitRunId_join first unmarked dotted) with
      ⟨entered, begun, told⟩
    rw [split] at entered begun told
    refine ⟨begun, told, ?_⟩
    have sameClass : ∀ call ∈ calls, ∃ id, call.run? = some id ∧ (splitRunId id).1 = className := by
      intro call member
      rcases about call member with ⟨parameters, aboutRun⟩
      exact ⟨_, aboutRun, congrArg Prod.fst (split parameters)⟩
    have stays := openClass_run_of_runs entered sameClass
    have inClass :=
      isInClass_of_openClass dotted unmarked (stays.trans (classOf_append dotless).symm)
    rwa [classOf_append dotless] at inClass

end Structured

namespace Demonstration

open Structured

/-- A name that ends like the mark before the parameters begins. -/
def barredName : String := "demo.Grid.fill |"

/-- Values with dots and marks in them. -/
def dottedChoice : ParameterSet := ⟨[("rows", "1.5 | x.y"), ("", ".")]⟩

def plainChoice : ParameterSet := ⟨[("rows", "2"), ("", "")]⟩

theorem combinations_share_class_barred :
    let calls : List ReporterCall := [.output "demo" (runId barredName dottedChoice) "1 ns"]
    '.' ∈ barredName.toList ∧ ¬ " | ".toList <:+: barredName.toList ∧
      (∀ call ∈ calls, ∃ parameters, call.run? = some (runId barredName parameters)) ∧
      splitRunId (runId barredName dottedChoice) =
        ("demo.Grid", "fill | | rows=1.5 | x.y, =.") ∧
      IsInClass barredName "demo.Grid" (run (step .initial
        (.startBenchmark "demo" (runId barredName plainChoice))).1 calls).1 := by
  intro calls
  have dotted : '.' ∈ barredName.toList := by decide
  have unmarked : ¬ " | ".toList <:+: barredName.toList := by decide +kernel
  have about : ∀ call ∈ calls, ∃ parameters, call.run? = some (runId barredName parameters) := by
    intro call member
    rw [List.mem_singleton.mp member]
    exact ⟨dottedChoice, rfl⟩
  have found : splitRunId (runId barredName dottedChoice) =
      ("demo.Grid", "fill | | rows=1.5 | x.y, =.") := by decide +kernel
  rcases combinations_share_class dotted unmarked with
    ⟨className, benchmark, -, -, split, told⟩
  have sameClass : "demo.Grid" = className :=
    congrArg Prod.fst (found.symm.trans (split dottedChoice).1)
  have inClass := (told .initial "demo" plainChoice calls about).2.2
  rw [← sameClass] at inClass
  exact ⟨dotted, unmarked, about, found, inClass⟩

end Demonstration

end Microbench
