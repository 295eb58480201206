import Mathlib.Algebra.BigOperators.Intervals
import Mathlib.Order.Bounds.Basic
import Microbench.Proofs.Measurement.Blocks

/-!
# Estimation

The invocations that fill an iteration are counted by making them, one block for each, until the
nanoseconds that they use up reach the budget. Since each uses up one at least, there are never more
invocations than nanoseconds in the budget. The sum of the nanoseconds is saturated and the counter
is a machine word, but neither makes a difference: below the budget the sum is exact, and a sum that
was cut off has reached any budget.
-/

namespace Microbench

namespace Session

/-- The nanoseconds that the next invocations use up if each is made in a block of its own. -/
def used (session : Session) (count : Nat) : Nat :=
  ∑ number ∈ Finset.range count, max (session.reading number 1).toNat 1

theorem used_succ (session : Session) (count : Nat) :
    session.used (count + 1) = session.used count + max (session.reading count 1).toNat 1 :=
  Finset.sum_range_succ _ _

theorem le_used (session : Session) (count : Nat) : count ≤ session.used count := by
  induction count with
  | zero => exact Nat.zero_le _
  | succ count ih =>
      rw [used_succ]
      omega

theorem used_mono (session : Session) : Monotone session.used := by
  apply monotone_nat_of_le_succ
  intro count
  rw [used_succ]
  omega

/-- The least number of invocations that use up a budget. -/
def needed (session : Session) (budget : UInt64) : Nat :=
  Nat.find (p := fun count => budget.toNat ≤ session.used count)
    ⟨budget.toNat, session.le_used budget.toNat⟩

theorem isLeast_needed (session : Session) (budget : UInt64) :
    IsLeast {count | budget.toNat ≤ session.used count} (session.needed budget) :=
  Nat.isLeast_find _

theorem needed_le (session : Session) (budget : UInt64) :
    session.needed budget ≤ budget.toNat :=
  (session.isLeast_needed budget).2 (session.le_used budget.toNat)

theorem used_lt {session : Session} {budget : UInt64} {count : Nat}
    (before : count < session.needed budget) : session.used count < budget.toNat := by
  by_contra enough
  have least := (session.isLeast_needed budget).2 (Nat.le_of_not_lt enough)
  omega

/-- What has been counted after the next invocations. -/
def tally (session : Session) : Nat → Tally
  | 0 => .empty
  | count + 1 => (session.tally count).count (session.reading count 1)

theorem elapsed_tally (session : Session) (count : Nat) :
    (session.tally count).elapsed.toNat = min (session.used count) maxNanos := by
  induction count with
  | zero => rfl
  | succ count ih =>
      rw [tally, Tally.count, toNat_saturatedNanos, ih, used_succ]
      omega

theorem calls_tally (session : Session) (count : Nat) :
    (session.tally count).calls = .ofNat count := by
  induction count with
  | zero => rfl
  | succ count ih =>
      rw [tally, Tally.count, ih, UInt64.ofNat_add]
      rfl

/-- The counter never comes round while there is room in the budget. -/
theorem toNat_calls_tally {session : Session} {budget : UInt64} {count : Nat}
    (inside : count ≤ session.needed budget) : (session.tally count).calls.toNat = count := by
  rw [calls_tally, UInt64.toNat_ofNat_of_lt']
  exact Nat.lt_of_le_of_lt (inside.trans (session.needed_le budget)) budget.toNat_lt

/-- A saturated sum reaches the budget exactly when the exact one does. -/
theorem elapsed_tally_lt_iff (session : Session) (budget : UInt64) (count : Nat) :
    (session.tally count).elapsed < budget ↔ count < session.needed budget := by
  rw [UInt64.lt_iff_toNat_lt, elapsed_tally]
  constructor
  · intro room
    by_contra full
    have reached := session.used_mono (Nat.le_of_not_lt full)
    have enough : budget.toNat ≤ session.used (session.needed budget) :=
      (session.isLeast_needed budget).1
    have largest : budget.toNat ≤ maxNanos := Nat.le_of_lt_succ budget.toNat_lt
    omega
  · intro before
    have exact := used_lt before
    omega

/-- The invocations that fill an iteration: those that use up the budget, but one at least. -/
def cycles (session : Session) (budget : UInt64) : UInt64 :=
  .ofNat (max (session.needed budget) 1)

theorem toNat_cycles (session : Session) (budget : UInt64) :
    (session.cycles budget).toNat = max (session.needed budget) 1 := by
  rw [cycles, UInt64.toNat_ofNat_of_lt']
  have atMost := session.needed_le budget
  have fits := budget.toNat_lt
  have size : UInt64.size = 2 ^ 64 := rfl
  omega

theorem max_calls_tally (session : Session) (budget : UInt64) :
    max (session.tally (session.needed budget)).calls 1 = session.cycles budget := by
  rw [← UInt64.toNat_inj, UInt64.toNat_max, toNat_cycles,
    toNat_calls_tally (Nat.le_refl (session.needed budget))]
  rfl

end Session

namespace Bench

/-- The loop has come so far: each invocation was made in a block of its own, and was counted. -/
structure HasFilled (between bench : Bench) (budget : UInt64) (count : Nat) : Prop where
  isAfter : between.IsAfter bench count []
  journal : between.journal.toList = bench.journal.toList ++ List.replicate count (.block 1)
  /-- The loop goes on with what has been counted. -/
  loop : bench.fill budget .empty = between.fill budget (bench.session.tally count)

variable {bench between : Bench} {budget : UInt64} {count : Nat}

theorem hasFilled_zero (bench : Bench) (budget : UInt64) : bench.HasFilled bench budget 0 :=
  ⟨⟨bench.session.isAfter_refl, by simp, [], by simp, by simp, by simp⟩, by simp, rfl⟩

/-- While there is room in the budget, the loop invokes the benchmark once more. -/
theorem HasFilled.step (hasFilled : between.HasFilled bench budget count)
    (room : count < bench.session.needed budget) :
    bench.fill budget .empty =
      match between.run 1 with
      | (.error panic, after) => (.error panic, after)
      | (.ok elapsed, after) => after.fill budget ((bench.session.tally count).count elapsed) := by
  rw [hasFilled.loop, fill]
  exact if_pos ((bench.session.elapsed_tally_lt_iff budget count).mpr room)

theorem HasFilled.next (hasFilled : between.HasFilled bench budget count)
    (room : count < bench.session.needed budget) (quiet : bench.session.IsQuiet (count + 1)) :
    ∃ after : Bench, after.HasFilled bench budget (count + 1) := by
  have quietOnce := hasFilled.isAfter.session.isQuiet quiet
  rcases (between.attempts_run 1).quiet quietOnce with ⟨after, ran, isAfter⟩
  refine ⟨after, isAfter.trans hasFilled.isAfter, ?_, ?_⟩
  · have pushed := between.journal_run 1
    rw [ran] at pushed
    rw [pushed, Array.toList_push, hasFilled.journal, List.append_assoc, List.replicate_succ']
  · rw [hasFilled.step room, ran, hasFilled.isAfter.session.reading]
    rfl

theorem exists_hasFilled (inside : count ≤ bench.session.needed budget)
    (quiet : bench.session.IsQuiet count) :
    ∃ between : Bench, between.HasFilled bench budget count := by
  induction count with
  | zero => exact ⟨bench, bench.hasFilled_zero budget⟩
  | succ count ih =>
      rcases ih (by omega) (quiet.le (by omega)) with ⟨between, hasFilled⟩
      exact hasFilled.next inside quiet

/-- The loop ends when the budget is used up, and not before. -/
theorem HasFilled.last (hasFilled : between.HasFilled bench budget (bench.session.needed budget)) :
    bench.fill budget .empty =
      (.ok (bench.session.tally (bench.session.needed budget)), between) := by
  rw [hasFilled.loop, fill, if_neg]
  rw [bench.session.elapsed_tally_lt_iff]
  exact Nat.lt_irrefl _

theorem attempts_fill (bench : Bench) (budget : UInt64) :
    bench.Attempts (bench.session.needed budget) []
      (bench.session.tally (bench.session.needed budget)) (bench.fill budget .empty) := by
  constructor
  · intro quiet
    rcases exists_hasFilled (Nat.le_refl _) quiet with ⟨after, hasFilled⟩
    exact ⟨after, hasFilled.last, hasFilled.isAfter⟩
  · intro number panic panicsAt inside
    have positive := panicsAt.positive
    have before : number - 1 < bench.session.needed budget := by omega
    rcases exists_hasFilled (Nat.le_of_lt before) panicsAt.quiet with ⟨between, hasFilled⟩
    have panicsNow := hasFilled.isAfter.session.panicsAt panicsAt (by omega)
    rw [Nat.sub_sub_self positive] at panicsNow
    rcases (between.attempts_run 1).panics 1 panic panicsNow (Nat.le_refl 1) with
      ⟨after, ran, isAfter⟩
    refine ⟨after, ?_, ?_⟩
    · rw [hasFilled.step before, ran]
    · rw [← Nat.sub_add_cancel positive]
      exact isAfter.trans hasFilled.isAfter

/-- The invocations that fill an iteration are counted, and a number of them use up the budget. -/
structure Estimates (bench : Bench) (settings : Settings) (needed : Nat)
    (result : Except Failure UInt64 × Bench) : Prop where
  /-- No fewer invocations use up the budget, by the exact sum of what they use up. -/
  least : IsLeast {count | settings.budget.toNat ≤ bench.session.used count} needed
  atMost : needed ≤ settings.budget.toNat
  /-- Each invocation was made in a block of its own, and nothing else was done. -/
  journal : result.2.journal.toList = bench.journal.toList ++ List.replicate needed (.block 1)
  calls : result.2.session.calls = bench.session.calls + needed
  lines : result.2.lines.toList = bench.lines.toList
  outcome : ∃ cycles : UInt64, result.1 = .ok cycles ∧ cycles.toNat = max needed 1
  /-- Each time round the loop the counter is right. The sum is right until the budget is used up,
  and only then it may be cut off. -/
  tallies : ∀ count ≤ needed,
    (∃ between : Bench, between.HasFilled bench settings.budget count) ∧
      (bench.session.tally count).calls.toNat = count ∧
      (bench.session.tally count).elapsed.toNat = min (bench.session.used count) maxNanos ∧
      (count < needed →
        (bench.session.tally count).elapsed.toNat = bench.session.used count)

/-- The fewest invocations that use up the budget are made and counted. -/
theorem estimate_counts {settings : Settings}
    (quiet : bench.session.IsQuiet (bench.session.needed settings.budget)) :
    bench.Estimates settings (bench.session.needed settings.budget) (bench.estimate settings) := by
  rcases exists_hasFilled (Nat.le_refl _) quiet with ⟨after, hasFilled⟩
  have estimated : bench.estimate settings =
      (.ok (bench.session.cycles settings.budget), after) := by
    rw [estimate, hasFilled.last, ← Session.max_calls_tally]
    rfl
  rw [estimated]
  constructor
  case least => exact bench.session.isLeast_needed settings.budget
  case atMost => exact bench.session.needed_le settings.budget
  case journal => exact hasFilled.journal
  case calls => exact hasFilled.isAfter.session.calls
  case lines => simpa using hasFilled.isAfter.lines
  case outcome => exact ⟨_, rfl, bench.session.toNat_cycles settings.budget⟩
  case tallies =>
    intro count inside
    refine ⟨exists_hasFilled inside (quiet.le inside), Session.toNat_calls_tally inside,
      bench.session.elapsed_tally count, ?_⟩
    intro before
    have room := Session.used_lt before
    have largest : settings.budget.toNat ≤ maxNanos :=
      Nat.le_of_lt_succ settings.budget.toNat_lt
    rw [Session.elapsed_tally]
    omega

end Bench

namespace Demonstration

/-- A fresh bench for a benchmark. -/
def freshBench (benchmark : Benchmark) : Bench :=
  ⟨⟨(Suite.create "demo.Fresh").add benchmark, benchmark, .empty, .empty, 0⟩, #[], #[]⟩

/-- A benchmark of which the clock shows nothing at first, and then as much as it can show. -/
def stalling : Benchmark :=
  ⟨"stall", .plain, fun _ _ => ⟨0, none⟩,
    fun _ calls _ => if calls = 0 then 0 else saturatedNanos maxNanos⟩

/-- Settings with more time for an iteration than there are nanoseconds. -/
def endless : Settings :=
  { Settings.standard with iterationTime := ⟨10000000000000000000, .minutes⟩ }

theorem needed_stalling : (freshBench stalling).session.needed endless.budget = 2 := by
  rw [Session.needed, Nat.find_eq_iff]
  decide +kernel

/-- The exact sum is too large for a machine word, and the largest budget is used up by two
invocations. -/
theorem estimate_counts_stalling :
    let bench := freshBench stalling
    maxNanos < bench.session.used 2 ∧ endless.budget.toNat = maxNanos ∧
      bench.session.IsQuiet (bench.session.needed endless.budget) ∧
      bench.Estimates endless 2 (bench.estimate endless) := by
  intro bench
  have quiet : bench.session.IsQuiet (bench.session.needed endless.budget) := fun _ _ _ => rfl
  have estimates := Bench.estimate_counts quiet
  rw [needed_stalling] at estimates
  exact ⟨by decide, by decide, quiet, estimates⟩

end Demonstration

end Microbench
