import Mathlib.Algebra.BigOperators.Intervals
import Mathlib.Data.Nat.ModEq
import Microbench.Proofs.Measurement.Blocks

/-!
# Conservation of consumed values

A sink loses nothing and makes nothing up. Whatever is done with a session, in whatever order and
whichever invocations panic: the values that the flushes have returned and those that the sink still
holds are together as many as the invocations have consumed, up to the width of a machine word.
-/

namespace Microbench

namespace Sink

theorem consume_zero (sink : Sink) : sink.consume 0 = sink := by
  simp [consume]

theorem consume_consume (sink : Sink) (first second : Nat) :
    (sink.consume first).consume second = sink.consume (first + second) := by
  simp [consume, UInt64.ofNat_add, UInt64.add_assoc]

/-- The count is right but for the rounds that it has made. -/
theorem toNat_consume (sink : Sink) (values : Nat) :
    (sink.consume values).consumed.toNat ≡ sink.consumed.toNat + values [MOD 2 ^ 64] := by
  rw [consume, UInt64.toNat_add, UInt64.toNat_ofNat']
  exact (Nat.mod_modEq _ _).trans ((Nat.ModEq.refl _).add (Nat.mod_modEq _ _))

end Sink

namespace Session

/-- The values that are consumed in an invocation, by its number from now on. -/
def consumption (session : Session) (number : Nat) : Nat :=
  let invocation := session.benchmark.invocation session.parameters (session.calls + number)
  match session.benchmark.shape, invocation.panic? with
  | .plain, _ => 0
  | .deferred, _ => 0
  | .deferredSinking, _ => invocation.handed
  | .sinking, some _ => invocation.handed
  -- The returned value is one more.
  | .sinking, none => invocation.handed + 1

/-- The values that are consumed in the next invocations. -/
def consumed (session : Session) (count : Nat) : Nat :=
  ∑ number ∈ Finset.range count, session.consumption (number + 1)

variable {session later : Session} {count cycles : Nat}

theorem consumed_zero (session : Session) : session.consumed 0 = 0 := rfl

theorem IsAfter.consumption (isAfter : later.IsAfter session count) (number : Nat) :
    later.consumption number = session.consumption (count + number) := by
  rw [Session.consumption, Session.consumption, isAfter.benchmark, isAfter.parameters,
    isAfter.calls, Nat.add_assoc]

theorem IsAfter.consumed_add (isAfter : later.IsAfter session count) (more : Nat) :
    session.consumed (count + more) = session.consumed count + later.consumed more := by
  rw [consumed, consumed, consumed, Finset.sum_range_add]
  simp only [isAfter.consumption, Nat.add_assoc]

/-- The session after some more invocations, without a flush between them. -/
structure IsFed (later session : Session) (count : Nat) : Prop where
  isAfter : later.IsAfter session count
  sink : later.sink = session.sink.consume (session.consumed count)

theorem isFed_refl (session : Session) : session.IsFed session 0 :=
  ⟨session.isAfter_refl, (session.sink.consume_zero).symm⟩

theorem IsFed.trans {between : Session} {more : Nat} (second : later.IsFed between more)
    (first : between.IsFed session count) : later.IsFed session (count + more) := by
  refine ⟨second.isAfter.trans first.isAfter, ?_⟩
  rw [second.sink, first.sink, Sink.consume_consume, first.isAfter.consumed_add]

theorem invoke_isFed (session : Session) : session.invoke.2.IsFed session 1 := by
  refine ⟨session.invoke_isAfter.2, ?_⟩
  rw [consumed, Finset.sum_range_one, Session.consumption]
  change session.sink.consume _ = _
  congr 1
  cases session.benchmark.shape
  all_goals
    cases (session.benchmark.invocation session.parameters (session.calls + 1)).panic?
    · simp [Shape.takesSink, Shape.returned]
    · simp [Shape.takesSink]

/-- Invocations in a row stop at a panic, and the sink has what was consumed up to there. -/
theorem invokeTimes_isFed (session : Session) (cycles : Nat) :
    ∃ count, (session.invokeTimes cycles).2.IsFed session count := by
  induction cycles generalizing session with
  | zero => exact ⟨0, session.isFed_refl⟩
  | succ cycles ih =>
      rw [invokeTimes_succ]
      split
      · exact ⟨1, session.invoke_isFed⟩
      · rcases ih session.invoke.2 with ⟨count, isFed⟩
        exact ⟨1 + count, isFed.trans session.invoke_isFed⟩

theorem session_run (session : Session) (cycles : Nat) :
    (session.run cycles).2 = (session.invokeTimes cycles).2 := by
  rw [run]
  split
  · rename_i panic after invoked
    rw [invoked]
  · rename_i after invoked
    rw [invoked]

theorem run_isFed (session : Session) (cycles : Nat) :
    ∃ count, (session.run cycles).2.IsFed session count := by
  rw [session_run]
  exact session.invokeTimes_isFed cycles

/-- What can be done with a session before its instance is released. -/
inductive Action where
  /-- A block of invocations, which ends early if one of them panics. -/
  | run (cycles : Nat)
  | flush

/-- What an action returns from the sink, and the session after it. -/
def perform (session : Session) : Action → List UInt64 × Session
  | .run cycles => ([], (session.run cycles).2)
  | .flush => ([session.flush.1], session.flush.2)

/-- What actions in a row return from the sink, and the session after them. -/
def performAll (session : Session) : List Action → List UInt64 × Session
  | [] => ([], session)
  | action :: actions =>
    let (values, session) := session.perform action
    let (later, session) := session.performAll actions
    (values ++ later, session)

/-- Flushes have returned some values, and what they have left is in the sink: together these are
what the sink held before and what all invocations since then have consumed. -/
def Conserves (session : Session) (released : List UInt64) (later : Session) : Prop :=
  ∃ count, later.IsAfter session count ∧
    (released.map UInt64.toNat).sum + later.sink.consumed.toNat ≡
      session.sink.consumed.toNat + session.consumed count [MOD 2 ^ 64]

theorem IsFed.conserves (isFed : later.IsFed session count) : session.Conserves [] later := by
  refine ⟨count, isFed.isAfter, ?_⟩
  rw [isFed.sink, List.map_nil, List.sum_nil, Nat.zero_add]
  exact session.sink.toNat_consume _

theorem Conserves.refl (session : Session) : session.Conserves [] session :=
  session.isFed_refl.conserves

theorem Conserves.trans {between : Session} {released others : List UInt64}
    (first : session.Conserves released between) (second : between.Conserves others later) :
    session.Conserves (released ++ others) later := by
  rcases first with ⟨count, isBetween, firstSum⟩
  rcases second with ⟨more, isAfter, secondSum⟩
  refine ⟨count + more, isAfter.trans isBetween, ?_⟩
  rw [isBetween.consumed_add, List.map_append, List.sum_append, Nat.add_assoc, ← Nat.add_assoc
    session.sink.consumed.toNat]
  calc (released.map UInt64.toNat).sum +
        ((others.map UInt64.toNat).sum + later.sink.consumed.toNat)
      ≡ (released.map UInt64.toNat).sum +
        (between.sink.consumed.toNat + between.consumed more) [MOD 2 ^ 64] :=
          (Nat.ModEq.refl _).add secondSum
    _ = (released.map UInt64.toNat).sum + between.sink.consumed.toNat + between.consumed more :=
          (Nat.add_assoc _ _ _).symm
    _ ≡ session.sink.consumed.toNat + session.consumed count + between.consumed more
          [MOD 2 ^ 64] := firstSum.add (Nat.ModEq.refl _)

theorem run_conserves (session : Session) (cycles : Nat) :
    session.Conserves [] (session.run cycles).2 := by
  rcases session.run_isFed cycles with ⟨count, isFed⟩
  exact isFed.conserves

theorem flush_conserves (session : Session) :
    session.Conserves [session.flush.1] session.flush.2 := by
  refine ⟨0, ⟨rfl, rfl, rfl, rfl⟩, ?_⟩
  rw [consumed_zero, List.map_singleton, List.sum_singleton]
  exact Nat.ModEq.refl _

theorem perform_conserves (session : Session) (action : Action) :
    session.Conserves (session.perform action).1 (session.perform action).2 := by
  cases action with
  | run cycles => exact session.run_conserves cycles
  | flush => exact session.flush_conserves

/-- As long as nothing is released, the sink has all that was consumed. -/
theorem Conserves.isFed (conserves : session.Conserves [] later) :
    ∃ count, later.IsFed session count := by
  rcases conserves with ⟨count, isAfter, sum⟩
  refine ⟨count, isAfter, ?_⟩
  rw [List.map_nil, List.sum_nil, Nat.zero_add] at sum
  have same := sum.trans (session.sink.toNat_consume (session.consumed count)).symm
  have equal := Nat.ModEq.eq_of_lt_of_lt same (UInt64.toNat_lt _) (UInt64.toNat_lt _)
  exact congrArg Sink.mk (UInt64.toNat_inj.mp equal)

theorem IsFed.of_isAfter {number : Nat} (isFed : later.IsFed session count)
    (isAfter : later.IsAfter session number) : later.IsFed session number := by
  have calls := isFed.isAfter.calls
  rw [isAfter.calls] at calls
  rwa [Nat.add_left_cancel calls]

/-- Whatever is done with a session, nothing that is consumed gets lost. -/
theorem performAll_conserves (session : Session) (actions : List Action) :
    session.Conserves (session.performAll actions).1 (session.performAll actions).2 := by
  induction actions generalizing session with
  | nil => exact Conserves.refl session
  | cons action actions ih => exact (session.perform_conserves action).trans (ih _)

/-- A session starts with an empty sink. -/
theorem sink_start {suite : Suite} {index : Nat} {parameters : ParameterSet}
    {activities : List Activity}
    (started : start suite index parameters = (.ok session, activities)) :
    session.sink = .empty := by
  rw [start] at started
  split at started
  · cases started
  · rename_i benchmark _
    rw [Prod.mk.injEq] at started
    rcases started with ⟨outcome, -⟩
    cases ran : (Hooks.runInOrder (suite.hooks.preparation parameters)).1 with
    | error panic =>
        rw [ran] at outcome
        cases outcome
    | ok ready =>
        rw [ran] at outcome
        cases outcome
        rfl

end Session

end Microbench
