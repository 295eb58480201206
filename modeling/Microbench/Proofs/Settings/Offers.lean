import Microbench.Proofs.Settings.Options

/-!
# Options after many offers

Options are offered one after the other, and those with something wrong about them are turned down.
What is stored then is what was accepted: each name once, in the order in which it was first
accepted, with the last value that was accepted for it.

A value is checked when it is offered and read with its type later. The check only accepts what the
readings understand, so no accepted value is lost on them.
-/

namespace Microbench

/-- The truth value that a word stands for. -/
inductive DenotesBool : String → Bool → Prop where
  | yes : DenotesBool "true" true
  | no : DenotesBool "false" false

/-- The processes that a value stands for: those of a number, or as many as the harness likes. -/
inductive HarnessForks.IsDenotedBy : HarnessForks → String → Prop where
  | count {number : UInt32} {value : String}
    (denotes : Numeral.DenotesNat value.toList number.toNat) : IsDenotedBy (.count number) value
  | byHarness : IsDenotedBy .byHarness HarnessForks.byHarnessName

namespace AdvancedOptions

instance (name value : String) : Decidable (IsOption name value) :=
  decidable_of_iff _ problem?_eq_none_iff

/-- What is stored after many offers, whatever comes of each. -/
def offerAll (options : AdvancedOptions) (pairs : List (String × String)) : AdvancedOptions :=
  pairs.foldl (fun stored pair => (stored.offer pair.1 pair.2).2) options

/-- The offers that are not turned down. -/
def accepted (pairs : List (String × String)) : List (String × String) :=
  pairs.filter fun pair => IsOption pair.1 pair.2

/-- The last value that was accepted for a name. -/
def lastAccepted? (name : String) (pairs : List (String × String)) : Option String :=
  (Entries.valuesOf name (accepted pairs)).getLast?

theorem isOk_offer (options : AdvancedOptions) (pair : String × String) :
    (options.offer pair.1 pair.2).1.isOk = decide (IsOption pair.1 pair.2) := by
  rw [offer, ← Bool.coe_iff_coe, decide_eq_true_eq, ← problem?_eq_none_iff]
  cases problem? pair.1 pair.2 <;> simp [Except.isOk, Except.toBool]

theorem stored_offer (options : AdvancedOptions) (pair : String × String) :
    (options.offer pair.1 pair.2).2 =
      if IsOption pair.1 pair.2 then options.store pair.1 pair.2 else options := by
  simp only [← problem?_eq_none_iff]
  rw [offer]
  cases problem? pair.1 pair.2 with
  | none => rw [if_pos rfl]
  | some error => rw [if_neg (by simp)]

/-- What is stored depends on the accepted offers only. -/
theorem offerAll_entries (pairs : List (String × String)) :
    (empty.offerAll pairs).entries =
      Entries.updateAll (fun value _ => value) (accepted pairs) := by
  have steps : empty.offerAll pairs =
      (accepted pairs).foldl (fun options pair => options.store pair.1 pair.2) empty := by
    rw [offerAll, accepted, List.foldl_filter]
    simp only [decide_eq_true_eq, ← stored_offer]
  have stored := foldl_update (accepted pairs)
  rw [steps]
  exact congrArg entries stored

theorem get?_offerAll (name : String) (pairs : List (String × String)) :
    (empty.offerAll pairs).get? name = lastAccepted? name pairs := by
  rw [get?, offerAll_entries, Entries.find?_updateAll, lastAccepted?]
  rcases List.eq_nil_or_concat' (Entries.valuesOf name (accepted pairs)) with none | ⟨_, _, some⟩
  · rw [none]
    rfl
  · rw [some, List.foldl_append, List.getLast?_concat]
    rfl

theorem isOption_of_lastAccepted? {name value : String} {pairs : List (String × String)}
    (last : lastAccepted? name pairs = some value) : IsOption name value := by
  have member := List.mem_of_getLast? last
  rcases List.mem_map.mp member with ⟨pair, named, rfl⟩
  rcases List.mem_filter.mp named with ⟨isAccepted, sameName⟩
  have isOption := (List.mem_filter.mp isAccepted).2
  rw [decide_eq_true_eq] at sameName isOption
  rw [← sameName]
  exact isOption

/-! ## Readings -/

theorem understood_strategy {value : String} (isOption : IsOption nativeFork value) :
    ∃ strategy, ForkStrategy.ofName? value = some strategy ∧ value = strategy.name := by
  generalize same : nativeFork = name at isOption
  cases isOption with
  | strategy strategy => cases strategy <;> exact ⟨_, rfl, rfl⟩
  | switch isSwitch => exact absurd (same ▸ isSwitch) (by decide)
  | byHarness => exact absurd same (by decide)
  | forks => exact absurd same (by decide)

theorem understood_switch {name value : String}
    (isSwitch : name = flushAfterIteration ∨ name = useBridge) (isOption : IsOption name value) :
    ∃ flag, readBool? value = some flag ∧ DenotesBool value flag := by
  cases isOption with
  | strategy => exact absurd isSwitch (by decide)
  | switch _ isBool =>
      rcases isBool with rfl | rfl
      · exact ⟨true, rfl, .yes⟩
      · exact ⟨false, rfl, .no⟩
  | byHarness => exact absurd isSwitch (by decide)
  | forks => exact absurd isSwitch (by decide)

theorem understood_forks {value : String} (isOption : IsOption harnessForks value) :
    ∃ forks, HarnessForks.ofText? value = some forks ∧ forks.IsDenotedBy value := by
  generalize same : harnessForks = name at isOption
  cases isOption with
  | strategy => exact absurd same (by decide)
  | switch isSwitch => exact absurd (same ▸ isSwitch) (by decide)
  | byHarness => exact ⟨.byHarness, rfl, .byHarness⟩
  | @forks _ number denotes small =>
      have read := Numeral.readBelow?_eq_some_iff.mpr ⟨denotes, small⟩
      have other : value ≠ HarnessForks.byHarnessName := by
        rintro rfl
        have none : Numeral.readBelow? UInt32.size HarnessForks.byHarnessName.toList = none := by
          decide
        rw [none] at read
        cases read
      have back : (UInt32.ofNat number).toNat = number := UInt32.toNat_ofNat_of_lt' small
      refine ⟨.count (.ofNat number), ?_, .count (back.symm ▸ denotes)⟩
      rw [HarnessForks.ofText?, if_neg other, Numeral.readUInt32?, read]
      rfl

/-- A reading that understands every accepted value has a result whenever there is one. -/
theorem rel_bind_get? {α : Type} {name : String} {read : String → Option α}
    {stands : String → α → Prop}
    (understood : ∀ {value}, IsOption name value → ∃ item, read value = some item ∧
      stands value item)
    (pairs : List (String × String)) :
    Option.Rel stands (lastAccepted? name pairs)
      (((empty.offerAll pairs).get? name).bind read) := by
  rw [get?_offerAll]
  cases last : lastAccepted? name pairs with
  | none => exact .none
  | some value =>
      rcases understood (isOption_of_lastAccepted? last) with ⟨item, read, stands⟩
      rw [Option.bind_some, read]
      exact .some stands

theorem flushesAfterIteration_eq (options : AdvancedOptions) :
    options.flushesAfterIteration =
      ((options.get? flushAfterIteration).bind readBool?).getD false := by
  rw [flushesAfterIteration]
  cases options.get? flushAfterIteration with
  | none => rfl
  | some value =>
      rw [Option.bind_some, readBool?]
      by_cases yes : value = "true"
      · rw [if_pos yes, yes]
        rfl
      · rw [if_neg yes]
        split <;> simp [yes]

/-- Offers that are turned down change nothing. The others are stored in the order in which their
names were first accepted, with the last of their values, and each option is read as what this value
stands for, or as its default if there is none. -/
theorem offerAll_keeps_accepted (pairs : List (String × String)) :
    (∀ (options : AdvancedOptions) (pair : String × String),
      (offer options pair.1 pair.2).1.isOk = decide (IsOption pair.1 pair.2) ∧
      (offer options pair.1 pair.2).2 =
        if IsOption pair.1 pair.2 then ⟨Entries.update pair.1 (fun _ => pair.2) options.entries⟩
        else options) ∧
      (empty.offerAll pairs).entries = Entries.latest "" (accepted pairs) ∧
      (∀ name, (empty.offerAll pairs).get? name = lastAccepted? name pairs) ∧
      (∃ strategy?, Option.Rel (fun value strategy => value = ForkStrategy.name strategy)
          (lastAccepted? nativeFork pairs) strategy? ∧
        (empty.offerAll pairs).forkStrategy = strategy?.getD .perBenchmark) ∧
      (∃ flag?, Option.Rel DenotesBool (lastAccepted? flushAfterIteration pairs) flag? ∧
        (empty.offerAll pairs).flushesAfterIteration = flag?.getD false) ∧
      Option.Rel (fun value forks => HarnessForks.IsDenotedBy forks value)
        (lastAccepted? harnessForks pairs) (empty.offerAll pairs).harnessForkCount ∧
      Option.Rel DenotesBool (lastAccepted? useBridge pairs) (empty.offerAll pairs).usesBridge := by
  refine ⟨fun options pair => ⟨isOk_offer options pair, stored_offer options pair⟩, ?_, ?_, ?_, ?_,
    ?_, ?_⟩
  · rw [offerAll_entries, Entries.updateAll_replace]
  · exact fun name => get?_offerAll name pairs
  · exact ⟨_, rel_bind_get? understood_strategy pairs, rfl⟩
  · exact ⟨_, rel_bind_get? (understood_switch (.inl rfl)) pairs, flushesAfterIteration_eq _⟩
  · exact rel_bind_get? understood_forks pairs
  · exact rel_bind_get? (understood_switch (.inr rfl)) pairs

example : (empty.offerAll [("jvmForks", "1"), ("nativeFork", "perIteration"), ("jvmForks", "-1"),
    ("jvmForks", "3"), ("jsFork", "1")]).entries =
      [("jvmForks", "3"), ("nativeFork", "perIteration")] := by decide

end AdvancedOptions

end Microbench
