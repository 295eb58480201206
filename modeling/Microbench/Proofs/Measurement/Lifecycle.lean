import Microbench.Proofs.Measurement.Phases

/-!
# The lifecycle of an instance

An execution makes an instance ready, works on it and releases it. Whatever panics on the way, the
hooks run in their order and at most once each: those that make the instance ready up to the first
that panics, and the one that releases it exactly if all of them have ended well. It is the last
thing that happens to the instance. Of several failures the first one is what the execution ends
with.
-/

namespace Microbench

/-- Whether the benchmark is invoked in a phase. -/
def Phase.invokes : Phase → Bool
  | .estimation | .warmup _ | .measurement _ => true
  | .setup | .teardown => false

/-- Work on a session ends after some invocations: with a value, if none of them has panicked, or
with the failure of the last one, if that is the first to panic. -/
inductive Session.Ends {α : Type} (session : Session) (calls : Nat) : Except Failure α → Prop
  | value (value : α) (quiet : session.IsQuiet calls) : session.Ends calls (.ok value)
  | failure (panic : Panic) (phase : Phase) (panicsAt : session.PanicsAt calls panic)
      (invokes : phase.invokes = true) : session.Ends calls (.error (panic.failure phase))

namespace Bench

/-- A session on a fresh instance, which has been made ready. -/
def fresh (suite : Suite) (benchmark : Benchmark) (parameters : ParameterSet) : Bench :=
  ⟨⟨suite, benchmark, parameters, .empty, 0⟩,
    #[.construct, .parametrize parameters, .setup], #[]⟩

/-- All legs of the work are in phases in which the benchmark is invoked. -/
def IsPlanned {α : Type} (bench : Bench) (result : Except Failure α × Bench) : Prop :=
  ∃ legs value, bench.Takes legs value result ∧ ∀ leg ∈ legs, leg.phase.invokes = true

variable {α : Type} {bench : Bench}

theorem IsPlanned.ends {result : Except Failure α × Bench} (isPlanned : bench.IsPlanned result) :
    ∃ calls lines, bench.session.Ends calls result.1 ∧ result.2.IsAfter bench calls lines := by
  rcases isPlanned with ⟨legs, value, takes, phases⟩
  rcases takes.quiet_or_panics with
    ⟨quiet, after, rfl, isAfter⟩ |
      ⟨number, panic, panicsAt, leg, member, after, rfl, lines, isAfter⟩
  · exact ⟨_, _, .value value quiet, isAfter⟩
  · exact ⟨_, _, .failure panic leg.phase panicsAt (phases leg member), isAfter⟩

theorem invokes_iterations {session : Session} {settings : Settings} {phase : Nat → Phase}
    (invokes : ∀ index, (phase index).invokes = true) (heading : String) (cycles : UInt64)
    (earlier index count : Nat) :
    ∀ leg ∈ session.iterations settings phase heading cycles earlier index count,
      leg.phase.invokes = true := by
  intro leg member
  rcases List.mem_map.mp member with ⟨place, -, rfl⟩
  exact invokes _

theorem isPlanned_runAll (bench : Bench) (settings : Settings) :
    bench.IsPlanned (bench.runAll settings) := by
  refine ⟨_, _, bench.takes_runAll settings, ?_⟩
  rw [Course.legs, Course.opening, Course.measures, List.forall_mem_append, List.forall_mem_cons]
  exact ⟨⟨rfl, invokes_iterations (fun _ => rfl) _ _ _ _ _⟩,
    invokes_iterations (fun _ => rfl) _ _ _ _ _⟩

theorem isPlanned_warmUpAlone (bench : Bench) (settings : Settings) (index : Nat) :
    bench.IsPlanned (bench.warmUpAlone settings index) := by
  refine ⟨_, _, bench.takes_warmUpAlone settings index, ?_⟩
  rw [List.forall_mem_append, List.forall_mem_singleton, List.forall_mem_singleton]
  exact ⟨rfl, rfl⟩

theorem isPlanned_measure (bench : Bench) (settings : Settings) (index : Nat)
    (cycles : UInt64) : bench.IsPlanned (bench.measure settings index cycles) := by
  refine ⟨_, _, bench.takes_measure settings index cycles, ?_⟩
  rw [List.forall_mem_singleton]
  rfl

end Bench

namespace Execution

variable {α : Type}

/-- The outcome of an execution: a failure of the work comes before one of the release. -/
def settle (worked : Except Failure α) (release? : Option Panic) : Except Failure α :=
  match worked, release? with
  | .error failure, _ => .error failure
  | .ok _, some panic => .error (panic.failure .teardown)
  | .ok value, none => .ok value

/-- All that is done to an instance which becomes ready. -/
def life (parameters : ParameterSet) (activities : List Activity) (calls : Nat) : Journal :=
  ([Activity.construct, .parametrize parameters, .setup] ++ activities ++
    [Activity.teardown calls]).toArray

/-- What an execution does to an instance, and how it ends. -/
inductive Lifecycle (suite : Suite) (index : Nat) (parameters : ParameterSet)
    (work : Bench → Except Failure α × Bench) : Execution α → Prop
  /-- There is no benchmark with the index. -/
  | unknown (missing : suite.benchmarks[index]? = none) :
      Lifecycle suite index parameters work
        ⟨.error ⟨.setup, "suite '" ++ suite.name ++ "' has no benchmark #" ++ toString index, ""⟩,
          #[], []⟩
  /-- No instance is made. -/
  | unmade {benchmark : Benchmark} {panic : Panic}
      (found : suite.benchmarks[index]? = some benchmark)
      (construct : suite.hooks.construct = some panic) :
      Lifecycle suite index parameters work ⟨.error (panic.failure .setup), #[.construct], []⟩
  /-- The instance does not take its parameters. -/
  | unparametrized {benchmark : Benchmark} {panic : Panic}
      (found : suite.benchmarks[index]? = some benchmark)
      (construct : suite.hooks.construct = none)
      (parametrize : suite.hooks.parametrize parameters = some panic) :
      Lifecycle suite index parameters work
        ⟨.error (panic.failure .setup), #[.construct, .parametrize parameters], []⟩
  /-- The instance does not become ready. -/
  | unready {benchmark : Benchmark} {panic : Panic}
      (found : suite.benchmarks[index]? = some benchmark)
      (construct : suite.hooks.construct = none)
      (parametrize : suite.hooks.parametrize parameters = none)
      (setup : suite.hooks.setup parameters = some panic) :
      Lifecycle suite index parameters work
        ⟨.error (panic.failure .setup), #[.construct, .parametrize parameters, .setup], []⟩
  /-- The instance is released after the last invocation. -/
  | released {benchmark : Benchmark} {worked : Except Failure α} {calls : Nat}
      {activities : List Activity} {lines : List String}
      (found : suite.benchmarks[index]? = some benchmark)
      (construct : suite.hooks.construct = none)
      (parametrize : suite.hooks.parametrize parameters = none)
      (setup : suite.hooks.setup parameters = none)
      (works : (work (.fresh suite benchmark parameters)).1 = worked)
      (ends : (Bench.fresh suite benchmark parameters).session.Ends calls worked)
      (isWork : ∀ activity ∈ activities, activity.isWork = true)
      (inBlocks : calls ≤ (activities.map Activity.invocations).sum) :
      Lifecycle suite index parameters work
        ⟨settle worked (suite.hooks.teardown benchmark parameters calls),
          life parameters activities calls, lines⟩

variable {suite : Suite} {index : Nat} {parameters : ParameterSet}
  {work : Bench → Except Failure α × Bench}

/-- The instance becomes ready if no hook panics. -/
theorem start_ready {benchmark : Benchmark}
    (found : suite.benchmarks[index]? = some benchmark)
    (construct : suite.hooks.construct = none)
    (parametrize : suite.hooks.parametrize parameters = none)
    (setup : suite.hooks.setup parameters = none) :
    Session.start suite index parameters =
      (.ok ⟨suite, benchmark, parameters, .empty, 0⟩,
        [.construct, .parametrize parameters, .setup]) := by
  rw [Session.start, found]
  simp only [Hooks.preparation, construct, parametrize, setup, Hooks.runInOrder]
  rfl

theorem within_ready {benchmark : Benchmark}
    (started : Session.start suite index parameters =
      (.ok ⟨suite, benchmark, parameters, .empty, 0⟩,
        [.construct, .parametrize parameters, .setup]))
    {calls : Nat} {lines : List String}
    (isAfter : (work (.fresh suite benchmark parameters)).2.IsAfter
      (.fresh suite benchmark parameters) calls lines) :
    ∃ activities, (∀ activity ∈ activities, activity.isWork = true) ∧
      calls ≤ (activities.map Activity.invocations).sum ∧
      within suite index parameters work =
        ⟨settle (work (.fresh suite benchmark parameters)).1
            (suite.hooks.teardown benchmark parameters calls),
          life parameters activities calls, lines⟩ := by
  cases works : work (.fresh suite benchmark parameters) with
  | mk worked after =>
      rw [works] at isAfter
      rcases isAfter.journal with ⟨activities, journal, isWork, inBlocks⟩
      refine ⟨activities, isWork, inBlocks, ?_⟩
      have calls_eq : after.session.calls = calls := by
        rw [isAfter.session.calls]
        exact Nat.zero_add calls
      have closed : after.session.close = Hooks.runInOrder
          [(.teardown calls, suite.hooks.teardown benchmark parameters calls)] := by
        rw [Session.close, calls_eq, isAfter.session.suite, isAfter.session.benchmark,
          isAfter.session.parameters]
        rfl
      have whole : after.journal ++ [Activity.teardown calls] =
          life parameters activities calls := by
        have shape : after.journal.toList = _ := journal
        rw [life, ← Array.toList_inj]
        simp [shape, Bench.fresh]
      have lines_eq : after.lines.toList = lines := isAfter.lines
      have work_eq : work ⟨⟨suite, benchmark, parameters, .empty, 0⟩,
        [Activity.construct, .parametrize parameters, .setup].toArray, #[]⟩ = (worked, after) :=
          works
      rw [within, started]
      simp only [work_eq, closed]
      cases suite.hooks.teardown benchmark parameters calls with
      | some panic =>
          simp only [Hooks.runInOrder, whole, lines_eq]
          cases worked <;> rfl
      | none =>
          simp only [Hooks.runInOrder, whole, lines_eq]
          cases worked <;> rfl

theorem lifecycle_within (isPlanned : ∀ bench : Bench, bench.IsPlanned (work bench)) :
    Lifecycle suite index parameters work (within suite index parameters work) := by
  cases found : suite.benchmarks[index]? with
  | none =>
      rw [within, Session.start, found]
      exact .unknown found
  | some benchmark =>
      cases construct : suite.hooks.construct with
      | some panic =>
          rw [within, Session.start, found]
          simp only [Hooks.preparation, construct, Hooks.runInOrder]
          exact .unmade found construct
      | none =>
          cases parametrize : suite.hooks.parametrize parameters with
          | some panic =>
              rw [within, Session.start, found]
              simp only [Hooks.preparation, construct, parametrize, Hooks.runInOrder]
              exact .unparametrized found construct parametrize
          | none =>
              cases setup : suite.hooks.setup parameters with
              | some panic =>
                  rw [within, Session.start, found]
                  simp only [Hooks.preparation, construct, parametrize, setup, Hooks.runInOrder]
                  exact .unready found construct parametrize setup
              | none =>
                  rcases (isPlanned (.fresh suite benchmark parameters)).ends with
                    ⟨calls, lines, ends, isAfter⟩
                  rcases within_ready (start_ready found construct parametrize setup) isAfter
                    with ⟨activities, isWork, inBlocks, shape⟩
                  rw [shape]
                  exact .released found construct parametrize setup rfl ends isWork inBlocks

/-- Each of the three executions is a lifecycle of an instance. -/
theorem lifecycles (suite : Suite) (index : Nat) (parameters : ParameterSet)
    (settings : Settings) :
    Lifecycle suite index parameters (Bench.runAll settings)
        (run suite index parameters settings) ∧
      (∀ warmup, Lifecycle suite index parameters (Bench.warmUpAlone settings warmup)
        (warmUp suite index parameters settings warmup)) ∧
      ∀ iteration cycles,
        Lifecycle suite index parameters (Bench.measure settings iteration (max cycles 1))
          (measure suite index parameters settings iteration cycles) := by
  refine ⟨?_, ?_, ?_⟩
  · exact lifecycle_within fun bench => bench.isPlanned_runAll settings
  · intro warmup
    exact lifecycle_within fun bench => bench.isPlanned_warmUpAlone settings warmup
  · intro iteration cycles
    exact lifecycle_within fun bench => bench.isPlanned_measure settings iteration (max cycles 1)

end Execution

end Microbench
