import Microbench.Proofs.Measurement.Phases

/-!
# The samples of a run

A run that does not fail has taken one sample in each measured iteration. All samples come from
numbers of the processor, so none of them has a payload that its text would lose.
-/

namespace Microbench

namespace Bench

theorem runAll_samples {settings : Settings} {bench after : Bench} {samples : List Binary64}
    (ended : bench.runAll settings = (.ok samples, after)) :
    samples.length = settings.iterations.toNat ∧
      ∀ sample ∈ samples, ∃ value : Float, sample = .ofFloat value := by
  rcases (bench.takes_runAll settings).quiet_or_panics with
    ⟨-, other, done, -⟩ | ⟨number, panic, -, leg, -, other, done, -⟩
  · rw [ended] at done
    cases done
    refine ⟨by rw [List.length_map, List.length_range]; rfl, ?_⟩
    intro sample member
    rcases List.mem_map.mp member with ⟨index, -, rfl⟩
    exact ⟨_, rfl⟩
  · rw [ended] at done
    cases done

end Bench

namespace Execution

/-- Work on a session has a value only if a session could be started and the work had that
value. -/
theorem within_ok {α : Type} {suite : Suite} {index : Nat} {parameters : ParameterSet}
    {work : Bench → Except Failure α × Bench} {value : α}
    (succeeded : (within suite index parameters work).outcome = .ok value) :
    ∃ bench after, work bench = (.ok value, after) := by
  rw [within] at succeeded
  split at succeeded
  · cases succeeded
  · rename_i session activities _
    refine ⟨⟨session, activities.toArray, #[]⟩, (work ⟨session, activities.toArray, #[]⟩).2, ?_⟩
    cases outcome : (work ⟨session, activities.toArray, #[]⟩).1 with
    | error failure =>
        simp only [outcome] at succeeded
        cases succeeded
    | ok other =>
        simp only [outcome] at succeeded
        cases released : Phase.teardown.capture
            (work ⟨session, activities.toArray, #[]⟩).2.session.close.1 with
        | error failure =>
            rw [released] at succeeded
            cases succeeded
        | ok done =>
            rw [released] at succeeded
            cases succeeded
            exact Prod.ext outcome rfl

/-- A whole run that does not fail has one sample for each measured iteration. -/
theorem run_samples {suite : Suite} {index : Nat} {parameters : ParameterSet}
    {settings : Settings} {samples : List Binary64}
    (succeeded : (run suite index parameters settings).outcome = .ok samples) :
    samples.length = settings.iterations.toNat ∧
      ∀ sample ∈ samples, ∃ value : Float, sample = .ofFloat value := by
  rcases within_ok succeeded with ⟨bench, after, ended⟩
  exact Bench.runAll_samples ended

end Execution

end Microbench
