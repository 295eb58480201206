import Mathlib.Algebra.Order.BigOperators.GroupWithZero.List
import Mathlib.Algebra.Order.Ring.Nat
import Mathlib.Data.List.Forall2
import Microbench.Proofs.Parameter.Readings

/-!
# All choices of values

An odometer that is asked again and again gives one set for each choice of values and nothing after
that. The sets are numbered in the order in which they are given. The place of a value is a digit of
the number of its set, where the first parameter has the digit that counts least: it is what the
number leaves over when it is divided by the choices for all parameters before, and then by the
values of the parameter itself. Every row of digits belongs to one number, so no choice is skipped
and none comes twice.
-/

namespace Microbench

/-- A row of places in lists belongs to one number if the place in the first list counts least. -/
theorem existsUnique_number {α : Type} {lists : List (List α)} {digit : Nat → Nat}
    (below : ∀ place values, lists[place]? = some values → digit place < values.length) :
    ∃! number, number < (lists.map List.length).prod ∧
      ∀ place values, lists[place]? = some values →
        number / ((lists.take place).map List.length).prod % values.length = digit place := by
  induction lists generalizing digit with
  | nil =>
      refine ⟨0, by simp, ?_⟩
      intro number fits
      simpa using fits.1
  | cons values lists ih =>
      have first : digit 0 < values.length := below 0 values rfl
      have others : ∀ place list, lists[place]? = some list → digit (place + 1) < list.length := by
        intro place list found
        exact below (place + 1) list found
      rcases ih others with ⟨upper, ⟨upperBelow, upperDigits⟩, upperOnly⟩
      have whole : digit 0 + values.length * upper <
          values.length * (lists.map List.length).prod := by
        calc
          digit 0 + values.length * upper < values.length * (upper + 1) := by
            rw [Nat.mul_succ]
            omega
          _ ≤ values.length * (lists.map List.length).prod :=
            Nat.mul_le_mul_left values.length upperBelow
      have quotient : (digit 0 + values.length * upper) / values.length = upper := by
        rw [Nat.add_mul_div_left _ _ (by omega), Nat.div_eq_of_lt first, Nat.zero_add]
      -- The digits of the other lists are those of the quotient by the length of the first.
      refine ⟨digit 0 + values.length * upper, ⟨by simpa using whole, ?_⟩, ?_⟩
      · intro place list found
        cases place with
        | zero =>
            simp only [List.getElem?_cons_zero, Option.some.injEq] at found
            subst found
            simp [Nat.mod_eq_of_lt first]
        | succ place =>
            rw [List.take_succ_cons, List.map_cons, List.prod_cons, ← Nat.div_div_eq_div_mul,
              quotient]
            exact upperDigits place list found
      · rintro number ⟨numberBelow, numberDigits⟩
        have lowest : number % values.length = digit 0 := by
          simpa using numberDigits 0 values rfl
        have rest : number / values.length = upper := by
          apply upperOnly
          constructor
          · apply Nat.div_lt_of_lt_mul
            simpa using numberBelow
          · intro place list found
            have digits := numberDigits (place + 1) list found
            rwa [List.take_succ_cons, List.map_cons, List.prod_cons,
              ← Nat.div_div_eq_div_mul] at digits
        rw [← Nat.mod_add_div number values.length, lowest, rest]

namespace Odometer

variable {names : List String} {overrides defaults : ParameterValues}

/-- The values that a parameter has: overriding values if there are any, or else the default ones,
but some values in any case. -/
def Resolves (overrides defaults : ParameterValues) (name : String) (values : List String) : Prop :=
  values ≠ [] ∧
    (overrides.get? name = some values ∨
      (overrides.get? name).getD [] = [] ∧ defaults.get? name = some values)

theorem valuesFor_eq_ok_iff {name : String} {values : List String} :
    valuesFor overrides defaults name = .ok values ↔ Resolves overrides defaults name values := by
  rw [valuesFor, Resolves]
  split
  · rename_i value others found
    rw [found]
    constructor
    · intro same
      cases same
      simp
    · rintro ⟨-, same | ⟨empty, -⟩⟩
      · cases same
        rfl
      · cases empty
  · rename_i lacking
    have bare : (overrides.get? name).getD [] = [] := by
      cases found : overrides.get? name with
      | none => rfl
      | some list =>
          cases list with
          | nil => rfl
          | cons value others => exact absurd found (lacking value others)
    have noOther : values ≠ [] → overrides.get? name ≠ some values := by
      rintro solid found
      rw [found] at bare
      exact solid bare
    split
    · rename_i value others found
      rw [found]
      constructor
      · intro same
        cases same
        simp [bare]
      · rintro ⟨solid, same | ⟨-, same⟩⟩
        · exact absurd same (noOther solid)
        · cases same
          rfl
    · rename_i lackingToo
      constructor
      · intro same
        cases same
      · rintro ⟨solid, same | ⟨-, same⟩⟩
        · exact absurd same (noOther solid)
        · rcases List.exists_cons_of_ne_nil solid with ⟨value, others, rfl⟩
          exact absurd same (lackingToo value others)

theorem wheelsFor_resolves {wheels : List Wheel}
    (found : wheelsFor overrides defaults names = .ok wheels) :
    wheels.map Wheel.name = names ∧
      List.Forall₂ (Resolves overrides defaults) names (wheels.map Wheel.values) := by
  induction names generalizing wheels with
  | nil =>
      cases found
      exact ⟨rfl, .nil⟩
  | cons name names ih =>
      rcases wheelsFor_cons found with ⟨values, others, ownFound, othersFound, rfl⟩
      rcases ih othersFound with ⟨sameNames, resolved⟩
      refine ⟨by rw [List.map_cons, sameNames], ?_⟩
      exact .cons (valuesFor_eq_ok_iff.mp ownFound) resolved

/-- What an odometer gives when it is asked a number of times; it stays as it is when it has nothing
more to give. -/
def answers : Nat → Odometer → List (Option ParameterSet)
  | 0, _ => []
  | count + 1, odometer =>
    match odometer.next? with
    | none => none :: answers count odometer
    | some (set, odometer) => some set :: answers count odometer

theorem answers_exhausted {odometer : Odometer} (exhausted : odometer.exhausted = true)
    (count : Nat) : odometer.answers count = List.replicate count none := by
  induction count with
  | zero => rfl
  | succ count ih =>
      have nothing : odometer.next? = none := by rw [next?, if_pos exhausted]
      rw [answers, nothing, List.replicate_succ]
      simp only [ih]

theorem answers_after {wheels : List Wheel} (solid : ∀ wheel ∈ wheels, wheel.values ≠ [])
    (count number : Nat) :
    (after wheels number).answers count = (List.range' number count).map fun number =>
      if number < choices wheels then some (choice wheels number) else none := by
  induction count generalizing number with
  | zero => rfl
  | succ count ih =>
      by_cases below : number < choices wheels
      · rw [answers, next?_after solid, if_pos below, List.range'_succ, List.map_cons,
          if_pos below, ← ih]
      · have exhausted : (after wheels number).exhausted = true := by
          simpa [after] using below
        rw [answers_exhausted exhausted, eq_comm, List.eq_replicate_iff]
        refine ⟨by simp, ?_⟩
        intro answer member
        rw [List.mem_map] at member
        rcases member with ⟨later, inRange, rfl⟩
        rw [List.mem_range'_1] at inRange
        apply if_neg
        omega

theorem choices_eq (wheels : List Wheel) :
    choices wheels = ((wheels.map Wheel.values).map List.length).prod := by
  induction wheels with
  | nil => rfl
  | cons wheel wheels ih => simp [ih]

/-- The place of each value is a digit of the number of the choice. -/
theorem getElem?_choice (wheels : List Wheel) (number place : Nat) :
    (choice wheels number).pairs[place]? = wheels[place]?.map fun wheel =>
      (wheel.name, wheel.values.getD
        (number / (((wheels.map Wheel.values).take place).map List.length).prod %
          wheel.values.length) "") := by
  induction wheels generalizing number place with
  | nil => rfl
  | cons wheel wheels ih =>
      rw [pairs_choice_cons]
      cases place with
      | zero => simp
      | succ place =>
          rw [List.getElem?_cons_succ, ih, List.map_cons, List.take_succ_cons, List.map_cons,
            List.prod_cons, List.getElem?_cons_succ]
          simp only [Nat.div_div_eq_div_mul]

theorem names_choice (wheels : List Wheel) (number : Nat) :
    (choice wheels number).pairs.map Prod.fst = wheels.map Wheel.name := by
  induction wheels generalizing number with
  | nil => rfl
  | cons wheel wheels ih => rw [pairs_choice_cons, List.map_cons, List.map_cons, ih]

/-- An odometer gives these sets, which are all choices from the values of the parameters. -/
structure Enumerates (odometer : Odometer) (names : List String) (lists : List (List String))
    (sets : List ParameterSet) : Prop where
  /-- There is a set for each choice. -/
  length : sets.length = (lists.map List.length).prod
  /-- However often it is asked, the odometer gives the sets in order and then nothing. -/
  answers : ∀ count, odometer.answers count = (List.range count).map fun number => sets[number]?
  /-- Collecting the readings gives the sets. -/
  readings : odometer.readings = sets
  /-- A set has the parameters in the order of their declaration. -/
  parameters : ∀ set ∈ sets, set.pairs.map Prod.fst = names
  /-- The number of the set says which value each parameter has. -/
  values : ∀ number set, sets[number]? = some set → ∀ place values, lists[place]? = some values →
    ∃ value, values[number / ((lists.take place).map List.length).prod % values.length]? =
        some value ∧ set.pairs[place]?.map Prod.snd = some value
  /-- Each choice of places has one number. -/
  once : ∀ choice : Nat → Nat,
    (∀ place values, lists[place]? = some values → choice place < values.length) →
      ∃! number, number < sets.length ∧ ∀ place values, lists[place]? = some values →
        number / ((lists.take place).map List.length).prod % values.length = choice place
  /-- Without parameters there is one choice, of nothing. -/
  bare : names = [] → sets = [.empty]
  /-- The sets are counted beforehand. -/
  size : odometer.size = sets.length
  /-- No product on the way to the count is larger than the count. -/
  subproducts : ∀ place, ((lists.take place).map List.length).prod ≤ odometer.size

/-- An odometer that was started gives all choices of values, each once. -/
theorem start_enumerates {odometer : Odometer}
    (started : start names overrides defaults = .ok odometer) :
    ∃ lists sets, List.Forall₂ (Resolves overrides defaults) names lists ∧
      odometer.Enumerates names lists sets := by
  rcases readings_eq started with ⟨found, readings⟩
  rcases wheelsFor_resolves found with ⟨sameNames, resolved⟩
  have solid := wheelsFor_solid found
  have total := choices_eq odometer.wheels
  have numbered (number : Nat) :
      ((List.range (choices odometer.wheels)).map (choice odometer.wheels))[number]? =
        if number < choices odometer.wheels then some (choice odometer.wheels number)
        else none := by
    split
    · rename_i below
      simp [below]
    · rename_i notBelow
      simpa using notBelow
  refine ⟨odometer.wheels.map Wheel.values,
    (List.range (choices odometer.wheels)).map (choice odometer.wheels), resolved, ?_⟩
  constructor
  case length => rw [List.length_map, List.length_range, total]
  case answers =>
    intro count
    have given := answers_after solid count 0
    rw [← (eq_after_of_start started).2, ← List.range_eq_range'] at given
    simp only [given, numbered]
  case readings => exact readings
  case parameters =>
    intro set member
    rw [List.mem_map] at member
    rcases member with ⟨number, -, rfl⟩
    rw [names_choice, sameNames]
  case values =>
    intro number set atNumber place values atPlace
    rw [numbered] at atNumber
    split at atNumber
    · cases atNumber
      rw [List.getElem?_map, Option.map_eq_some_iff] at atPlace
      rcases atPlace with ⟨wheel, atPlace, rfl⟩
      have positive : 0 < wheel.values.length :=
        List.length_pos_iff.mpr (solid wheel (List.mem_of_getElem? atPlace))
      have inside := Nat.mod_lt (number /
        (((odometer.wheels.map Wheel.values).take place).map List.length).prod) positive
      refine ⟨_, List.getElem?_eq_getElem inside, ?_⟩
      rw [getElem?_choice, atPlace, Option.map_some, Option.map_some, List.getD_eq_getElem]
    · cases atNumber
  case once =>
    intro choice below
    rw [List.length_map, List.length_range, total]
    exact existsUnique_number below
  case bare =>
    intro none
    rw [none, List.map_eq_nil_iff] at sameNames
    rw [sameNames]
    rfl
  case size =>
    rw [List.length_map, List.length_range]
    rfl
  case subproducts =>
    intro place
    have split := List.take_append_drop place (odometer.wheels.map Wheel.values)
    have rest : 0 < (((odometer.wheels.map Wheel.values).drop place).map List.length).prod := by
      apply List.prod_pos
      intro count member
      rw [List.mem_map] at member
      rcases member with ⟨values, inRest, rfl⟩
      rcases List.mem_map.mp (List.mem_of_mem_drop inRest) with ⟨wheel, inWheels, rfl⟩
      exact List.length_pos_iff.mpr (solid wheel inWheels)
    change _ ≤ choices odometer.wheels
    rw [total, ← split, List.map_append, List.prod_append, split]
    exact Nat.le_mul_of_pos_right _ rest

end Odometer

namespace Demonstration

/-- Default values of three parameters. -/
def sizes : ParameterValues :=
  ⟨[("rows", ["1", "2"]), ("mode", ["slow", "fast"]), ("columns", ["a", "b", "c"])]⟩

/-- The second parameter is overridden by one value. -/
def fastOnly : ParameterValues := ParameterValues.empty.push "mode" "fast"

/-- An odometer with a wheel that comes round at every turn. -/
theorem start_enumerates_sizes :
    ∃ odometer, Odometer.start ["rows", "mode", "columns"] fastOnly sizes = .ok odometer ∧
      ∃ lists sets,
        List.Forall₂ (Odometer.Resolves fastOnly sizes) ["rows", "mode", "columns"] lists ∧
          odometer.Enumerates ["rows", "mode", "columns"] lists sets ∧ sets.length = 6 := by
  have started : Odometer.start ["rows", "mode", "columns"] fastOnly sizes =
      .ok ⟨[⟨"rows", ["1", "2"], 0⟩, ⟨"mode", ["fast"], 0⟩, ⟨"columns", ["a", "b", "c"], 0⟩],
        false⟩ := rfl
  rcases Odometer.start_enumerates started with ⟨lists, sets, resolved, enumerates⟩
  exact ⟨_, started, lists, sets, resolved, enumerates, enumerates.size.symm⟩

end Demonstration

end Microbench
