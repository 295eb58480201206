import Microbench.Proofs.Settings.Checks
import Microbench.Proofs.Text.Entries
import Microbench.Proofs.Text.Numerals
import Microbench.Settings.Advanced

/-!
# Which options there are

Advanced options have names of their own, and each name has its own values. Options are stored one
after the other, up to the first that is wrong.
-/

namespace Microbench

namespace AdvancedOptions

/-- The options that there are, and their values. -/
inductive IsOption : String → String → Prop where
  | strategy (strategy : ForkStrategy) : IsOption nativeFork strategy.name
  | switch {name value : String} (isSwitch : name = flushAfterIteration ∨ name = useBridge)
    (isBool : value = "true" ∨ value = "false") : IsOption name value
  | byHarness : IsOption harnessForks HarnessForks.byHarnessName
  | forks {value : String} {number : Nat} (denotes : Numeral.DenotesNat value.toList number)
    (small : number < UInt32.size) : IsOption harnessForks value

theorem isOption_nativeFork {value : String} (named : (ForkStrategy.ofName? value).isSome = true) :
    IsOption nativeFork value := by
  rcases Option.isSome_iff_exists.mp named with ⟨strategy, found⟩
  have same : strategy.name = value := by simpa using List.find?_some found
  rw [← same]
  exact .strategy strategy

theorem isOption_switch {name value : String}
    (isSwitch : name = flushAfterIteration ∨ name = useBridge)
    (read : (readBool? value).isSome = true) : IsOption name value := by
  apply IsOption.switch isSwitch
  rw [readBool?] at read
  split at read
  · exact Or.inl (by assumption)
  · split at read
    · exact Or.inr (by assumption)
    · cases read

theorem isOption_harnessForks {value : String} (read : (HarnessForks.ofText? value).isSome = true) :
    IsOption harnessForks value := by
  rw [HarnessForks.ofText?] at read
  split at read
  · rename_i byHarness
    rw [byHarness]
    exact .byHarness
  · rw [Option.isSome_map, Numeral.readUInt32?, Option.isSome_map] at read
    rcases Option.isSome_iff_exists.mp read with ⟨number, below⟩
    rcases Numeral.readBelow?_eq_some_iff.mp below with ⟨denotes, small⟩
    exact .forks denotes small

theorem isSome_ofText? {value : String} {number : Nat}
    (denotes : Numeral.DenotesNat value.toList number) (small : number < UInt32.size) :
    (HarnessForks.ofText? value).isSome = true := by
  rw [HarnessForks.ofText?]
  split
  · rfl
  · rw [Numeral.readUInt32?, Numeral.readBelow?_eq_some_iff.mpr ⟨denotes, small⟩]
    rfl

/-- Nothing is wrong with exactly the options that there are. -/
theorem problem?_eq_none_iff {name value : String} :
    problem? name value = none ↔ IsOption name value := by
  constructor
  · intro fine
    rw [problem?] at fine
    split at fine
    · cases fine
    split at fine
    · cases fine
    split at fine
    · rename_i isFork
      split at fine
      · rw [isFork]
        exact isOption_nativeFork (by assumption)
      · cases fine
    split at fine
    · rename_i isSwitch
      split at fine
      · exact isOption_switch isSwitch (by assumption)
      · cases fine
    split at fine
    · rename_i isForks
      split at fine
      · rw [isForks]
        exact isOption_harnessForks (by assumption)
      · cases fine
    · cases fine
  · intro isOption
    cases isOption with
    | strategy strategy => cases strategy <;> decide
    | switch isSwitch isBool =>
        rcases isSwitch with rfl | rfl <;> rcases isBool with rfl | rfl <;> decide
    | byHarness => decide
    | forks denotes small =>
        have solid := denotes.isBlank_eq_false
        have named : Text.isBlank harnessForks.toList = false := by decide
        have other : harnessForks ≠ nativeFork ∧
            ¬ (harnessForks = flushAfterIteration ∨ harnessForks = useBridge) := by decide
        rw [problem?, if_neg (by simp [named]), if_neg (by simp [solid]), if_neg other.1,
          if_neg other.2, if_pos rfl, if_pos (isSome_ofText? denotes small)]

theorem settles_insert (options : AdvancedOptions) (pair : String × String) :
    Settles (options.insert pair.1 pair.2)
      (fun next => problem? pair.1 pair.2 = none ∧
        ⟨Entries.update pair.1 (fun _ => pair.2) options.entries⟩ = next)
      (fun error => problem? pair.1 pair.2 = some error) := by
  rw [insert, offer]
  cases problem? pair.1 pair.2 with
  | none =>
      apply (Settles.of_ok _).congr
      · simp [store, eq_comm]
      · simp [not_first_nil]
  | some error =>
      apply (Settles.of_error _).congr
      · simp
      · simp [eq_comm]

theorem insertAll_cons (options : AdvancedOptions) (pair : String × String)
    (pairs : List (String × String)) : options.insertAll (pair :: pairs) =
      (options.insert pair.1 pair.2).bind fun next => next.insertAll pairs := by
  rw [insertAll]
  cases options.insert pair.1 pair.2 <;> rfl

theorem foldl_update (pairs : List (String × String)) :
    pairs.foldl (fun options pair =>
      ⟨Entries.update pair.1 (fun _ => pair.2) options.entries⟩) empty =
        ⟨Entries.updateAll (fun value _ => value) pairs⟩ :=
  List.foldl_hom AdvancedOptions.mk fun _ _ => rfl

/-- Options are stored up to the first with a problem; each has the last of its values. -/
theorem settles_insertAll (pairs : List (String × String)) :
    Settles (empty.insertAll pairs)
      (fun options => (∀ pair ∈ pairs, IsOption pair.1 pair.2) ∧
        options.entries = Entries.latest "" pairs)
      (First (pairs.map fun pair error => problem? pair.1 pair.2 = some error)) := by
  apply (Settles.run (fun _ => rfl) insertAll_cons settles_insert empty pairs).congr
  · rintro ⟨options⟩
    rw [foldl_update, Entries.updateAll_replace pairs "", AdvancedOptions.mk.injEq, eq_comm]
    simp only [problem?_eq_none_iff]
  · simp

end AdvancedOptions

end Microbench
