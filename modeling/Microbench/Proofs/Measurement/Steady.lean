import Microbench.Proofs.Measurement.Lifecycle

/-!
# Steady benchmarks

If nothing panics and the clock shows the same for blocks of the same size, it does not matter which
invocations came before: all estimates agree, and so do all samples. An iteration on its own then
says and takes what it says and takes among all iterations of a run.
-/

namespace Microbench

/-- What a run works on when nothing fails: all blocks of one size take the same time. -/
structure SteadyWork where
  suite : Suite
  benchmark : Benchmark
  parameters : ParameterSet
  /-- Making an instance does not fail. -/
  construct : suite.hooks.construct = none
  /-- Neither does giving it its parameters. -/
  parametrize : suite.hooks.parametrize parameters = none
  /-- Neither does making it ready. -/
  setup : suite.hooks.setup parameters = none
  /-- Neither does releasing it. -/
  teardown : ∀ calls, suite.hooks.teardown benchmark parameters calls = none
  /-- No invocation fails. -/
  invocation : ∀ call, (benchmark.invocation parameters call).panic? = none
  /-- The time of a block depends on its size alone. -/
  elapsed : ∀ calls cycles,
    benchmark.elapsed parameters calls cycles = benchmark.elapsed parameters 0 cycles

namespace SteadyWork

/-- The nanoseconds that the clock shows for a block. -/
def reading (work : SteadyWork) (cycles : Nat) : UInt64 :=
  work.benchmark.elapsed work.parameters 0 cycles

/-- What one invocation uses up of an iteration. -/
def share (work : SteadyWork) : Nat := max (work.reading 1).toNat 1

/-- The invocations that fill an iteration. -/
def cycles (work : SteadyWork) (settings : Settings) : UInt64 :=
  .ofNat (max ((settings.budget.toNat + work.share - 1) / work.share) 1)

/-- The nanoseconds of one operation in an iteration. -/
def nanos (work : SteadyWork) (settings : Settings) : Float :=
  perOperation (work.reading (work.cycles settings).toNat) (work.cycles settings)

/-- The sample of each measured iteration. -/
def sample (work : SteadyWork) (settings : Settings) : Binary64 :=
  .ofFloat (settings.sample (work.nanos settings))

/-- What an iteration says. -/
def line (work : SteadyWork) (settings : Settings) (heading : String) : String :=
  heading ++ ": " ++ settings.nanosText (work.nanos settings)

/-- What an iteration before the measured ones says. -/
def warmUpLine (work : SteadyWork) (settings : Settings) (index : Nat) : String :=
  work.line settings ("Warm-up #" ++ toString index)

/-- What a measured iteration says. -/
def measureLine (work : SteadyWork) (settings : Settings) (index : Nat) : String :=
  work.line settings ("Iteration #" ++ toString index)

theorem one_le_share (work : SteadyWork) : 1 ≤ work.share := by
  rw [share]
  omega

/-- There is room for the count of invocations, and it is never zero. -/
theorem toNat_cycles (work : SteadyWork) (settings : Settings) :
    1 ≤ (work.cycles settings).toNat := by
  have small : (settings.budget.toNat + work.share - 1) / work.share ≤ settings.budget.toNat := by
    rw [Nat.div_le_iff_le_mul_add_pred work.one_le_share]
    have more := Nat.mul_le_mul_right settings.budget.toNat work.one_le_share
    omega
  have bound := settings.budget.toNat_lt
  have size : UInt64.size = 2 ^ 64 := rfl
  rw [cycles, UInt64.toNat_ofNat_of_lt']
  · omega
  · omega

theorem max_cycles (work : SteadyWork) (settings : Settings) :
    max (work.cycles settings) 1 = work.cycles settings := by
  have positive := work.toNat_cycles settings
  by_cases small : work.cycles settings ≤ 1
  · have single : work.cycles settings = 1 := by
      have atMost := UInt64.le_iff_toNat_le.mp small
      have one : (1 : UInt64).toNat = 1 := rfl
      rw [← UInt64.toNat_inj]
      omega
    rw [single]
    rfl
  · exact if_neg small

/-- The bench on which the work begins. -/
def bench (work : SteadyWork) : Bench := .fresh work.suite work.benchmark work.parameters

theorem isQuiet (work : SteadyWork) (count : Nat) : work.bench.session.IsQuiet count :=
  fun _ _ _ => work.invocation _

theorem reading_bench (work : SteadyWork) (earlier cycles : Nat) :
    work.bench.session.reading earlier cycles = work.reading cycles :=
  work.elapsed _ cycles

theorem used_bench (work : SteadyWork) (count : Nat) :
    work.bench.session.used count = count * work.share := by
  rw [Session.used, Finset.sum_const_nat fun _ _ => ?_, Finset.card_range]
  rw [reading_bench, share]

/-- The invocations that use up a budget: the budget over the share of one, rounded up. -/
theorem needed_bench (work : SteadyWork) (budget : UInt64) :
    work.bench.session.needed budget = (budget.toNat + work.share - 1) / work.share := by
  have positive := work.one_le_share
  apply (work.bench.session.isLeast_needed budget).unique
  constructor
  · have next := Nat.lt_mul_div_succ (budget.toNat + work.share - 1) positive
    rw [Nat.mul_succ] at next
    rw [Set.mem_ofPred_eq, used_bench, Nat.mul_comm]
    omega
  · intro count enough
    rw [Set.mem_ofPred_eq, used_bench] at enough
    rw [Nat.div_le_iff_le_mul_add_pred positive, Nat.mul_comm]
    omega

theorem cycles_bench (work : SteadyWork) (settings : Settings) :
    work.bench.session.cycles settings.budget = work.cycles settings := by
  rw [Session.cycles, needed_bench, cycles]

theorem nanos_bench (work : SteadyWork) (settings : Settings) (earlier : Nat) :
    work.bench.session.nanos earlier (work.cycles settings) = work.nanos settings := by
  rw [Session.nanos, reading_bench, nanos]

end SteadyWork

namespace Execution

variable {work : SteadyWork} {α : Type} {index : Nat}

/-- Steady work goes through all of its legs. -/
theorem within_steady (found : work.suite.benchmarks[index]? = some work.benchmark)
    {task : Bench → Except Failure α × Bench} {legs : List Leg} {value : α}
    (takes : work.bench.Takes legs value (task work.bench)) :
    (within work.suite index work.parameters task).outcome = .ok value ∧
      (within work.suite index work.parameters task).lines = Leg.said legs := by
  rcases takes.quiet (work.isQuiet _) with ⟨after, done, isAfter⟩
  have started := start_ready found work.construct work.parametrize work.setup
  have isAfterTask : (task work.bench).2.IsAfter work.bench (Leg.total legs) (Leg.said legs) := by
    rwa [done]
  rcases within_ready started isAfterTask with ⟨activities, -, -, whole⟩
  rw [whole, work.teardown]
  refine ⟨?_, rfl⟩
  have outcome : (task work.bench).1 = .ok value := by rw [done]
  change settle (task work.bench).1 none = .ok value
  rw [outcome, settle]

/-- A whole run. -/
theorem run_steady (found : work.suite.benchmarks[index]? = some work.benchmark)
    (settings : Settings) :
    (run work.suite index work.parameters settings).outcome =
        .ok (List.replicate settings.iterations.toNat (work.sample settings)) ∧
      (run work.suite index work.parameters settings).lines =
        (List.range settings.warmups.toNat).map (work.warmUpLine settings) ++
          (List.range settings.iterations.toNat).map (work.measureLine settings) := by
  let course : Course := ⟨work.bench.session, settings⟩
  have nanos (iteration : Nat) : course.nanos iteration = work.nanos settings := by
    rw [Course.nanos, Course.cycles, work.cycles_bench, work.nanos_bench]
  have sample (place : Nat) : course.sample place = work.sample settings := by
    rw [Course.sample, nanos]
    rfl
  have warmUpLine (place : Nat) : course.warmUpLine place = work.warmUpLine settings place := by
    rw [Course.warmUpLine, Course.line, nanos]
    rfl
  have measureLine (place : Nat) :
      course.measureLine place = work.measureLine settings place := by
    rw [Course.measureLine, Course.line, nanos]
    rfl
  have takes : work.bench.Takes course.legs ((List.range course.iterations).map course.sample)
      (work.bench.runAll settings) := work.bench.takes_runAll settings
  rcases within_steady found takes with ⟨outcome, lines⟩
  rw [List.map_congr_left fun place _ => sample place, List.map_const',
    List.length_range] at outcome
  rw [course.said_legs, List.map_congr_left fun place _ => warmUpLine place,
    List.map_congr_left fun place _ => measureLine place] at lines
  exact ⟨outcome, lines⟩

/-- An iteration before the measured ones, on its own. -/
theorem warmUp_steady (found : work.suite.benchmarks[index]? = some work.benchmark)
    (settings : Settings) (warmup : Nat) :
    (warmUp work.suite index work.parameters settings warmup).outcome =
        .ok (work.cycles settings) ∧
      (warmUp work.suite index work.parameters settings warmup).lines =
        [work.warmUpLine settings warmup] := by
  let course : Course := ⟨work.bench.session, settings⟩
  have cycles : course.cycles = work.cycles settings := work.cycles_bench settings
  have takes : work.bench.Takes
      ([⟨.estimation, course.needed, []⟩] ++
        [work.bench.session.iteration settings (.warmup warmup) ("Warm-up #" ++ toString warmup)
          course.needed course.cycles])
      course.cycles (work.bench.warmUpAlone settings warmup) :=
    work.bench.takes_warmUpAlone settings warmup
  rw [cycles, Session.iteration, work.nanos_bench] at takes
  exact within_steady found takes

/-- A measured iteration on its own, with the invocations that were counted before. -/
theorem measure_steady (found : work.suite.benchmarks[index]? = some work.benchmark)
    (settings : Settings) (iteration : Nat) :
    (measure work.suite index work.parameters settings iteration (work.cycles settings)).outcome =
        .ok (work.sample settings) ∧
      (measure work.suite index work.parameters settings iteration
        (work.cycles settings)).lines = [work.measureLine settings iteration] := by
  have takes := work.bench.takes_measure settings iteration (work.cycles settings)
  rw [Session.iteration, work.nanos_bench] at takes
  rw [measure, work.max_cycles]
  exact within_steady found takes

end Execution

end Microbench
