import Microbench.Measurement.Execution
import Microbench.Proofs.Measurement.Estimation

/-!
# The legs of a run

Work on a session is a row of legs: the estimation, the iterations before the measured ones, and the
measured iterations. Each leg has its phase and a number of invocations, and says something when it
is through. So the number of the first invocation that panics says in which leg the work ends: all
that the legs before it say has been said by then, and nothing else.
-/

namespace Microbench

/-- A leg of the work on a session. -/
structure Leg where
  phase : Phase
  calls : Nat
  /-- What is said when no invocation of the leg has panicked. -/
  lines : List String

namespace Leg

/-- The invocations of legs. -/
def total (legs : List Leg) : Nat := (legs.map calls).sum

/-- What is said in legs. -/
def said (legs : List Leg) : List String := legs.flatMap lines

@[simp]
theorem total_nil : total [] = 0 := rfl

@[simp]
theorem total_cons (leg : Leg) (legs : List Leg) : total (leg :: legs) = leg.calls + total legs :=
  List.sum_cons

@[simp]
theorem total_append (legs others : List Leg) :
    total (legs ++ others) = total legs + total others := by
  simp [total]

@[simp]
theorem said_append (legs others : List Leg) : said (legs ++ others) = said legs ++ said others :=
  List.flatMap_append

/-- A leg of two rows together is one of the first row or of the second. -/
theorem split_append {legs others before later : List Leg} {leg : Leg}
    (shape : legs ++ others = before ++ leg :: later) :
    (∃ rest, legs = before ++ leg :: rest) ∨
      ∃ skipped, before = legs ++ skipped ∧ others = skipped ++ leg :: later := by
  rcases List.append_eq_append_iff.mp shape with ⟨skipped, isBefore, rest⟩ | ⟨rest, isLegs, isLater⟩
  · exact Or.inr ⟨skipped, isBefore, rest⟩
  · cases rest with
    | nil => exact Or.inr ⟨[], by simpa using isLegs.symm, by simpa using isLater.symm⟩
    | cons first rest =>
        rw [List.cons_append, List.cons.injEq] at isLater
        rw [← isLater.1] at isLegs
        exact Or.inl ⟨rest, isLegs⟩

/-- Each invocation belongs to a leg. -/
theorem exists_leg {legs : List Leg} {number : Nat} (positive : 0 < number)
    (inside : number ≤ total legs) :
    ∃ before leg later, legs = before ++ leg :: later ∧ total before < number ∧
      number ≤ total before + leg.calls := by
  induction legs generalizing number with
  | nil => exact absurd positive (Nat.not_lt.mpr inside)
  | cons first legs ih =>
      rw [total_cons] at inside
      by_cases own : number ≤ first.calls
      · exact ⟨[], first, legs, rfl, positive, by simpa using own⟩
      · rcases @ih (number - first.calls) (by omega) (by omega) with
          ⟨before, leg, later, rfl, after, upTo⟩
        refine ⟨first :: before, leg, later, rfl, ?_, ?_⟩
        · rw [total_cons]
          omega
        · rw [total_cons]
          omega

end Leg

namespace Bench

open Leg (total said)

/-- A piece of work goes through legs and has a value. A panic is the failure of the leg in which it
is raised, and the work ends there. -/
structure Takes {α : Type} (bench : Bench) (legs : List Leg) (value : α)
    (result : Except Failure α × Bench) : Prop where
  quiet : bench.session.IsQuiet (total legs) →
    ∃ after : Bench, result = (.ok value, after) ∧
      after.IsAfter bench (total legs) (said legs)
  panics : ∀ before leg later, legs = before ++ leg :: later →
    ∀ number panic, bench.session.PanicsAt number panic →
      total before < number → number ≤ total before + leg.calls →
        ∃ after : Bench, result = (.error (panic.failure leg.phase), after) ∧
          after.IsAfter bench number (said before)

variable {α β : Type} {bench : Bench} {legs : List Leg} {value : α}

/-- A piece of work in one phase is a leg. -/
theorem Attempts.takes {count : Nat} {lines : List String} {result : Except Panic α × Bench}
    (attempts : bench.Attempts count lines value result) (phase : Phase) (take : α → β) :
    bench.Takes [⟨phase, count, lines⟩] (take value)
      (phase.capture (result.1.map take), result.2) := by
  have single (before later : List Leg) (leg : Leg)
      (shape : [⟨phase, count, lines⟩] = before ++ leg :: later) :
      before = [] ∧ leg = ⟨phase, count, lines⟩ := by
    cases before with
    | nil => exact ⟨rfl, (List.cons.inj shape).1.symm⟩
    | cons first before => simp at shape
  constructor
  · intro quiet
    rcases attempts.quiet (by simpa using quiet) with ⟨after, rfl, isAfter⟩
    exact ⟨after, rfl, by simpa [said] using isAfter⟩
  · intro before leg later shape number panic panicsAt _ inside
    rcases single before later leg shape with ⟨rfl, rfl⟩
    rcases attempts.panics number panic panicsAt (by simpa using inside) with
      ⟨after, rfl, isAfter⟩
    exact ⟨after, rfl, isAfter⟩

/-- Work goes through all of its legs, or it fails in one of them. -/
theorem Takes.quiet_or_panics {result : Except Failure α × Bench}
    (takes : bench.Takes legs value result) :
    (bench.session.IsQuiet (total legs) ∧
        ∃ after : Bench, result = (.ok value, after) ∧
          after.IsAfter bench (total legs) (said legs)) ∨
      ∃ number panic, bench.session.PanicsAt number panic ∧ ∃ leg ∈ legs,
        ∃ after : Bench, result = (.error (panic.failure leg.phase), after) ∧
          ∃ lines, after.IsAfter bench number lines := by
  rcases bench.session.isQuiet_or_panicsAt (total legs) with
    quiet | ⟨number, inside, panic, panicsAt⟩
  · exact Or.inl ⟨quiet, takes.quiet quiet⟩
  · rcases Leg.exists_leg panicsAt.positive inside with ⟨before, leg, later, shape, began, ended⟩
    rcases takes.panics before leg later shape number panic panicsAt began ended with
      ⟨after, done, isAfter⟩
    exact Or.inr ⟨number, panic, panicsAt, leg, by simp [shape], after, done, _, isAfter⟩

theorem Takes.map {result : Except Failure α × Bench} (takes : bench.Takes legs value result)
    (take : α → β) : bench.Takes legs (take value) (result.1.map take, result.2) := by
  constructor
  · intro quiet
    rcases takes.quiet quiet with ⟨after, rfl, isAfter⟩
    exact ⟨after, rfl, isAfter⟩
  · intro before leg later shape number panic panicsAt began inside
    rcases takes.panics before leg later shape number panic panicsAt began inside with
      ⟨after, rfl, isAfter⟩
    exact ⟨after, rfl, isAfter⟩

/-- Work may go on where other work has ended, unless it has failed. -/
theorem Takes.andThen {first : Except Failure α × Bench} {whole : Except Failure β × Bench}
    {later : List Leg} {last : β} (takes : bench.Takes legs value first)
    (next : Bench → Except Failure β × Bench)
    (takesNext : ∀ between : Bench, between.IsAfter bench (total legs) (said legs) →
      between.Takes later last (next between))
    (goesOn : ∀ between, first = (.ok value, between) → whole = next between)
    (ends : ∀ failure after, first = (.error failure, after) → whole = (.error failure, after)) :
    bench.Takes (legs ++ later) last whole := by
  constructor
  · intro quiet
    rw [Leg.total_append] at quiet
    rcases takes.quiet (quiet.le (Nat.le_add_right _ _)) with ⟨between, done, isBetween⟩
    rcases (takesNext between isBetween).quiet (isBetween.session.isQuiet quiet) with
      ⟨after, doneNext, isAfter⟩
    refine ⟨after, (goesOn between done).trans doneNext, ?_⟩
    rw [Leg.total_append, Leg.said_append]
    exact isAfter.trans isBetween
  · intro before leg others shape number panic panicsAt began inside
    -- The leg in which the work ends is one of the first piece of work, or of the next.
    rcases Leg.split_append shape with ⟨rest, inFirst⟩ | ⟨skipped, rfl, inNext⟩
    · rcases takes.panics before leg rest inFirst number panic panicsAt began inside with
        ⟨after, done, isAfter⟩
      exact ⟨after, ends _ after done, isAfter⟩
    · rw [Leg.total_append] at began inside
      rcases takes.quiet (panicsAt.isQuiet (by omega)) with ⟨between, done, isBetween⟩
      have panicsNext := isBetween.session.panicsAt panicsAt (by omega)
      rcases (takesNext between isBetween).panics skipped leg others inNext _ panic panicsNext
        (by omega) (by omega) with ⟨after, doneNext, isAfter⟩
      refine ⟨after, (goesOn between done).trans doneNext, ?_⟩
      rw [Leg.said_append, ← Nat.add_sub_cancel' (show total legs ≤ number by omega)]
      exact isAfter.trans isBetween

end Bench

end Microbench
