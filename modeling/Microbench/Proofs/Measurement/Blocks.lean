import Mathlib.Algebra.BigOperators.Group.List.Basic
import Mathlib.Algebra.GroupWithZero.Nat
import Microbench.Measurement.Basic

/-!
# Blocks of invocations

All invocations of a session are made in blocks, and a block ends at the first panic. So what
becomes of a piece of work is settled by the number of the first invocation that panics, counted
from where the work began: up to there the work goes as if nothing ever panicked, and there it ends.
-/

namespace Microbench

namespace Activity

/-- The invocations that an activity sets out to make. -/
def invocations : Activity → Nat
  | .block cycles => cycles
  | _ => 0

/-- Whether an activity belongs to the work on an instance, and neither prepares nor releases it. -/
def isWork : Activity → Bool
  | .block _ | .flush _ => true
  | _ => false

end Activity

namespace Session

/-- The panic of an invocation, by its number from now on. -/
def panic? (session : Session) (number : Nat) : Option Panic :=
  (session.benchmark.invocation session.parameters (session.calls + number)).panic?

/-- What the clock shows for a block after some more invocations. -/
def reading (session : Session) (earlier cycles : Nat) : UInt64 :=
  session.benchmark.elapsed session.parameters (session.calls + earlier) cycles

/-- The nanoseconds of one operation in a block after some more invocations. -/
def nanos (session : Session) (earlier : Nat) (cycles : UInt64) : Float :=
  perOperation (session.reading earlier cycles.toNat) cycles

/-- None of the next invocations panics. -/
def IsQuiet (session : Session) (count : Nat) : Prop :=
  ∀ number, 0 < number → number ≤ count → session.panic? number = none

/-- The invocation of a number is the first to panic. -/
structure PanicsAt (session : Session) (number : Nat) (panic : Panic) : Prop where
  positive : 0 < number
  /-- Those before do not panic. -/
  quiet : session.IsQuiet (number - 1)
  panics : session.panic? number = some panic

/-- The session is still at the same instance, which was invoked some more times. -/
structure IsAfter (later earlier : Session) (count : Nat) : Prop where
  suite : later.suite = earlier.suite
  benchmark : later.benchmark = earlier.benchmark
  parameters : later.parameters = earlier.parameters
  calls : later.calls = earlier.calls + count

variable {session later : Session} {count cycles number : Nat} {panic : Panic}

theorem IsQuiet.le (quiet : session.IsQuiet count) (fewer : number ≤ count) :
    session.IsQuiet number := by
  intro other positive before
  exact quiet other positive (by omega)

theorem PanicsAt.isQuiet (panicsAt : session.PanicsAt number panic) (before : count < number) :
    session.IsQuiet count :=
  panicsAt.quiet.le (by omega)

/-- Of some invocations one is the first to panic, unless none does. -/
theorem isQuiet_or_panicsAt (session : Session) (count : Nat) :
    session.IsQuiet count ∨ ∃ number ≤ count, ∃ panic, session.PanicsAt number panic := by
  induction count with
  | zero => exact Or.inl fun number positive none => by omega
  | succ count ih =>
      rcases ih with quiet | ⟨number, before, panic, panicsAt⟩
      · cases last : session.panic? (count + 1) with
        | none =>
            left
            intro number positive before
            by_cases isLast : number = count + 1
            · rw [isLast, last]
            · exact quiet number positive (by omega)
        | some panic => exact Or.inr ⟨count + 1, by omega, panic, by omega, quiet, last⟩
      · exact Or.inr ⟨number, by omega, panic, panicsAt⟩

theorem isAfter_refl (session : Session) : session.IsAfter session 0 := ⟨rfl, rfl, rfl, rfl⟩

theorem IsAfter.trans {between : Session} {more : Nat} (second : later.IsAfter between more)
    (first : between.IsAfter session count) : later.IsAfter session (count + more) := by
  refine ⟨second.suite.trans first.suite, second.benchmark.trans first.benchmark,
    second.parameters.trans first.parameters, ?_⟩
  rw [second.calls, first.calls, Nat.add_assoc]

theorem IsAfter.panic? (isAfter : later.IsAfter session count) (number : Nat) :
    later.panic? number = session.panic? (count + number) := by
  rw [Session.panic?, Session.panic?, isAfter.benchmark, isAfter.parameters, isAfter.calls,
    Nat.add_assoc]

theorem IsAfter.reading (isAfter : later.IsAfter session count) (earlier cycles : Nat) :
    later.reading earlier cycles = session.reading (count + earlier) cycles := by
  rw [Session.reading, Session.reading, isAfter.benchmark, isAfter.parameters, isAfter.calls,
    Nat.add_assoc]

theorem IsAfter.isQuiet {more : Nat} (isAfter : later.IsAfter session count)
    (quiet : session.IsQuiet (count + more)) : later.IsQuiet more := by
  intro number positive before
  rw [isAfter.panic?]
  exact quiet _ (by omega) (by omega)

theorem IsAfter.panicsAt (isAfter : later.IsAfter session count)
    (panicsAt : session.PanicsAt number panic) (before : count < number) :
    later.PanicsAt (number - count) panic := by
  refine ⟨by omega, isAfter.isQuiet (panicsAt.quiet.le (by omega)), ?_⟩
  rw [isAfter.panic?, Nat.add_sub_cancel' (by omega)]
  exact panicsAt.panics

theorem invoke_isAfter (session : Session) :
    session.invoke.1 = session.panic? 1 ∧ session.invoke.2.IsAfter session 1 :=
  ⟨rfl, rfl, rfl, rfl, rfl⟩

theorem invokeTimes_succ (session : Session) (cycles : Nat) :
    session.invokeTimes (cycles + 1) =
      match session.panic? 1 with
      | some panic => (some panic, session.invoke.2)
      | none => session.invoke.2.invokeTimes cycles := by
  rw [invokeTimes]
  rcases session.invoke_isAfter with ⟨outcome, -⟩
  rw [← outcome]
  split
  · rename_i panic after invoked
    rw [invoked]
  · rename_i after invoked
    rw [invoked]

theorem invokeTimes_quiet (quiet : session.IsQuiet cycles) :
    ∃ after, session.invokeTimes cycles = (none, after) ∧ after.IsAfter session cycles := by
  induction cycles generalizing session with
  | zero => exact ⟨session, rfl, session.isAfter_refl⟩
  | succ cycles ih =>
      have isAfter := session.invoke_isAfter.2
      rcases ih (isAfter.isQuiet (quiet.le (by omega))) with ⟨after, invoked, isAfterAll⟩
      refine ⟨after, ?_, ?_⟩
      · rw [invokeTimes_succ, quiet 1 (by omega) (by omega)]
        exact invoked
      · rw [Nat.add_comm cycles 1]
        exact isAfterAll.trans isAfter

theorem invokeTimes_panics (panicsAt : session.PanicsAt number panic) (inside : number ≤ cycles) :
    ∃ after, session.invokeTimes cycles = (some panic, after) ∧ after.IsAfter session number := by
  induction cycles generalizing session number with
  | zero => exact absurd panicsAt.positive (by omega)
  | succ cycles ih =>
      have isAfter := session.invoke_isAfter.2
      by_cases first : number = 1
      · subst first
        refine ⟨session.invoke.2, ?_, isAfter⟩
        rw [invokeTimes_succ, panicsAt.panics]
      · have positive := panicsAt.positive
        rcases ih (isAfter.panicsAt panicsAt (by omega)) (by omega) with
          ⟨after, invoked, isAfterAll⟩
        refine ⟨after, ?_, ?_⟩
        · rw [invokeTimes_succ, panicsAt.quiet 1 (by omega) (by omega)]
          exact invoked
        · rw [← Nat.add_sub_cancel' positive]
          exact isAfterAll.trans isAfter

end Session

namespace Bench

/-- The bench after some more invocations and lines. -/
structure IsAfter (later earlier : Bench) (count : Nat) (lines : List String) : Prop where
  session : later.session.IsAfter earlier.session count
  lines : later.lines.toList = earlier.lines.toList ++ lines
  /-- All that was done is work, and all invocations were made in its blocks. -/
  journal : ∃ activities : List Activity,
    later.journal.toList = earlier.journal.toList ++ activities ∧
      (∀ activity ∈ activities, activity.isWork = true) ∧
      count ≤ (activities.map Activity.invocations).sum

variable {bench later : Bench} {count : Nat} {lines : List String}

theorem IsAfter.trans {between : Bench} {more : Nat} {others : List String}
    (second : later.IsAfter between more others) (first : between.IsAfter bench count lines) :
    later.IsAfter bench (count + more) (lines ++ others) := by
  rcases first.journal with ⟨activities, firstShape, firstWork, firstCount⟩
  rcases second.journal with ⟨activities', secondShape, secondWork, secondCount⟩
  refine ⟨second.session.trans first.session, ?_, activities ++ activities', ?_, ?_, ?_⟩
  · rw [second.lines, first.lines, List.append_assoc]
  · rw [secondShape, firstShape, List.append_assoc]
  · rw [List.forall_mem_append]
    exact ⟨firstWork, secondWork⟩
  · rw [List.map_append, List.sum_append]
    omega

/-- A piece of work makes some invocations, then says some lines and has a value. If an invocation
panics, the work ends there with the panic, and nothing is said. -/
structure Attempts {α : Type} (bench : Bench) (count : Nat) (lines : List String) (value : α)
    (result : Except Panic α × Bench) : Prop where
  quiet : bench.session.IsQuiet count →
    ∃ after : Bench, result = (.ok value, after) ∧ after.IsAfter bench count lines
  panics : ∀ number panic, bench.session.PanicsAt number panic → number ≤ count →
    ∃ after : Bench, result = (.error panic, after) ∧ after.IsAfter bench number []

theorem journal_run (bench : Bench) (cycles : Nat) :
    (bench.run cycles).2.journal = bench.journal.push (.block cycles) :=
  rfl

theorem isAfter_block {session : Session} {cycles : Nat}
    (isAfter : session.IsAfter bench.session count) (inside : count ≤ cycles) :
    ({ bench with session := session, journal := bench.journal.push (.block cycles) } :
      Bench).IsAfter bench count [] := by
  refine ⟨isAfter, by simp, [.block cycles], by simp, ?_, ?_⟩
  · simp [Activity.isWork]
  · simpa [Activity.invocations] using inside

theorem flush_isAfter (bench : Bench) : bench.flush.IsAfter bench 0 [] := by
  refine ⟨⟨rfl, rfl, rfl, rfl⟩, by simp [flush], [.flush bench.session.flush.1], ?_, ?_, ?_⟩
  · simp [flush]
  · simp [Activity.isWork]
  · omega

theorem print_isAfter (bench : Bench) (line : String) :
    (bench.print line).IsAfter bench 0 [line] :=
  ⟨bench.session.isAfter_refl, by simp [print], [], by simp [print], by simp, by simp⟩

theorem attempts_run (bench : Bench) (cycles : Nat) :
    bench.Attempts cycles [] (bench.session.reading 0 cycles) (bench.run cycles) := by
  constructor
  · intro quiet
    rcases Session.invokeTimes_quiet quiet with ⟨after, invoked, isAfter⟩
    rw [run, Session.run, invoked]
    exact ⟨_, rfl, isAfter_block isAfter (by omega)⟩
  · intro number panic panicsAt inside
    rcases Session.invokeTimes_panics panicsAt inside with ⟨after, invoked, isAfter⟩
    rw [run, Session.run, invoked]
    exact ⟨_, rfl, isAfter_block isAfter inside⟩

theorem attempts_iterate (bench : Bench) (settings : Settings) (heading : String)
    (cycles : UInt64) :
    bench.Attempts cycles.toNat
      [heading ++ ": " ++ settings.nanosText (bench.session.nanos 0 cycles)]
      (bench.session.nanos 0 cycles) (bench.iterate settings heading cycles) := by
  have attempts := bench.attempts_run cycles.toNat
  rw [iterate]
  constructor
  · intro quiet
    rcases attempts.quiet quiet with ⟨next, ran, isAfter⟩
    rw [ran]
    have flushed : (if settings.advanced.flushesAfterIteration then next.flush else next).IsAfter
        bench cycles.toNat [] := by
      split
      · exact next.flush_isAfter.trans isAfter
      · exact isAfter
    exact ⟨_, rfl, (print_isAfter _ _).trans flushed⟩
  · intro number panic panicsAt inside
    rcases attempts.panics number panic panicsAt inside with ⟨next, ran, isAfter⟩
    rw [ran]
    exact ⟨next, rfl, isAfter⟩

end Bench

end Microbench
