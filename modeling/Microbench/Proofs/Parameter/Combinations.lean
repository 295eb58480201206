import Microbench.Proofs.Parameter.Readings

/-!
# Combinations of values

Whether an odometer starts, and what it reads, depends on the values of each parameter alone. It
does not start if a parameter lacks values, and the first such parameter is to blame. Otherwise it
reads all combinations of values, in an order in which the value of the first parameter changes
fastest.
-/

namespace Microbench

namespace Odometer

variable (overrides defaults : ParameterValues)

/-- The values of a parameter: the overriding ones if there are any, or else the default ones. -/
def valuesOf (name : String) : List String :=
  if (overrides.get? name).getD [] = [] then (defaults.get? name).getD []
  else (overrides.get? name).getD []

/-- The parameters without values. -/
def lacking (names : List String) : List String :=
  names.filter fun name => valuesOf overrides defaults name = []

/-- The wheels of parameters that have values. -/
def wheelsOf (names : List String) : List Wheel :=
  names.map fun name => ⟨name, valuesOf overrides defaults name, 0⟩

/-- All combinations of one value for each parameter. That of the first one changes fastest. -/
def combinations : List (String × List String) → List (List (String × String))
  | [] => [[]]
  | (name, values) :: others =>
    (combinations others).flatMap fun pairs => values.map fun value => (name, value) :: pairs

theorem valuesFor_eq (name : String) :
    valuesFor overrides defaults name =
      if valuesOf overrides defaults name = [] then .error ⟨name⟩
      else .ok (valuesOf overrides defaults name) := by
  rw [valuesFor, valuesOf]
  rcases overrides.get? name with _ | _ | ⟨value, values⟩
  case some.cons => simp
  all_goals rcases defaults.get? name with _ | _ | ⟨value, values⟩ <;> simp

theorem lacking_cons (name : String) (names : List String) :
    lacking overrides defaults (name :: names) =
      if valuesOf overrides defaults name = [] then name :: lacking overrides defaults names
      else lacking overrides defaults names := by
  rw [lacking, lacking, List.filter_cons]
  simp only [decide_eq_true_eq]

/-- The first parameter without values is the one to blame. -/
theorem wheelsFor_eq (names : List String) :
    wheelsFor overrides defaults names =
      match (lacking overrides defaults names).head? with
      | some name => .error ⟨name⟩
      | none => .ok (wheelsOf overrides defaults names) := by
  induction names with
  | nil => rfl
  | cons name names ih =>
      rw [wheelsFor, valuesFor_eq, ih, lacking_cons]
      by_cases lacks : valuesOf overrides defaults name = []
      · simp only [lacks, if_true, List.head?_cons]
      · simp only [lacks, if_false]
        cases (lacking overrides defaults names).head? with
        | none => rfl
        | some first => rfl

/-- The numbers below a product, by their quotients and remainders. -/
theorem range_mul (base count : Nat) :
    List.range (base * count) = (List.range count).flatMap fun upper =>
      (List.range base).map fun digit => base * upper + digit := by
  induction count with
  | zero => rfl
  | succ count ih => rw [Nat.mul_succ, List.range_add, ih, List.range_succ, List.flatMap_append,
      List.flatMap_singleton]

/-- The choices by their numbers are the combinations. -/
theorem pairs_choices (wheels : List Wheel) :
    ((List.range (choices wheels)).map fun number => (choice wheels number).pairs) =
      combinations (wheels.map fun wheel => (wheel.name, wheel.values)) := by
  induction wheels with
  | nil => rfl
  | cons wheel wheels ih =>
      have own (pairs : List (String × String)) :
          ((List.range wheel.values.length).map fun digit =>
            (wheel.name, wheel.values.getD digit "") :: pairs) =
          wheel.values.map fun value => (wheel.name, value) :: pairs := by
        apply List.ext_getElem
        · simp
        · intro place inRange inValues
          rw [List.length_map] at inValues
          simp [List.getElem?_eq_getElem inValues]
      rw [choices_cons, range_mul, List.map_flatMap, List.map_cons, combinations, ← ih,
        List.flatMap_map]
      congr 1
      funext upper
      rw [List.map_map, ← own]
      apply List.map_congr_left
      intro digit below
      rw [List.mem_range] at below
      rw [Function.comp_apply, pairs_choice_cons, Nat.mul_add_mod, Nat.mod_eq_of_lt below,
        Nat.mul_add_div (by omega), Nat.div_eq_of_lt below, Nat.add_zero]

/-- What becomes of an odometer that is started, and all that it reads. -/
theorem readings_start (names : List String) :
    (start names overrides defaults).map readings =
      match (lacking overrides defaults names).head? with
      | some name => .error ⟨name⟩
      | none => .ok ((combinations (names.map fun name =>
          (name, valuesOf overrides defaults name))).map ParameterSet.mk) := by
  have found := wheelsFor_eq overrides defaults names
  cases first : (lacking overrides defaults names).head? with
  | some name =>
      rw [first] at found
      rw [start, found]
      rfl
  | none =>
      rw [first] at found
      have started : start names overrides defaults =
          .ok ⟨wheelsOf overrides defaults names, false⟩ := by
        rw [start, found]
        rfl
      have read := (readings_eq started).2
      have rows : (wheelsOf overrides defaults names).map
            (fun wheel => (wheel.name, wheel.values)) =
          names.map fun name => (name, valuesOf overrides defaults name) := by
        rw [wheelsOf, List.map_map]
        rfl
      rw [started, Except.map, read, ← rows, ← pairs_choices, List.map_map]
      rfl

end Odometer

end Microbench
