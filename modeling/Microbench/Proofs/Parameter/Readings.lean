import Mathlib.Data.List.GetD
import Mathlib.Data.List.Nodup
import Mathlib.Data.Nat.ModEq
import Microbench.Parameter.Odometer

/-!
# The readings of an odometer

The readings of an odometer are numbered: the number of a reading, written with one digit for each
wheel, says which value each wheel shows. Turning the odometer adds one to the number, with a carry
wherever a wheel comes round. So the readings are all choices of values, each once, and choices with
different numbers are different as long as no wheel has a value twice.
-/

namespace Microbench

namespace Odometer

variable {names : List String} {overrides defaults : ParameterValues}

theorem valuesFor_ne_nil {name : String} {values : List String}
    (found : valuesFor overrides defaults name = .ok values) : values ≠ [] := by
  rintro rfl
  rw [valuesFor] at found
  split at found
  · cases found
  · split at found
    · cases found
    · cases found

theorem wheelsFor_cons {name : String} {wheels : List Wheel}
    (found : wheelsFor overrides defaults (name :: names) = .ok wheels) :
    ∃ values others, valuesFor overrides defaults name = .ok values ∧
      wheelsFor overrides defaults names = .ok others ∧ wheels = ⟨name, values, 0⟩ :: others := by
  rw [wheelsFor] at found
  split at found
  · cases found
  · rename_i values ownFound
    split at found
    · cases found
    · rename_i others othersFound
      cases found
      exact ⟨values, others, ownFound, othersFound, rfl⟩

theorem wheelsFor_solid {wheels : List Wheel}
    (found : wheelsFor overrides defaults names = .ok wheels) :
    ∀ wheel ∈ wheels, wheel.values ≠ [] := by
  induction names generalizing wheels with
  | nil =>
      cases found
      simp
  | cons name names ih =>
      rcases wheelsFor_cons found with ⟨values, others, ownFound, othersFound, rfl⟩
      rw [List.forall_mem_cons]
      exact ⟨valuesFor_ne_nil ownFound, ih othersFound⟩

theorem size_pos {odometer : Odometer} (solid : ∀ wheel ∈ odometer.wheels, wheel.values ≠ []) :
    0 < odometer.size := by
  rw [size]
  generalize odometer.wheels = wheels at solid
  induction wheels with
  | nil => simp
  | cons wheel wheels ih =>
      simp only [List.forall_mem_cons] at solid
      simp only [List.map_cons, List.foldr_cons]
      exact Nat.mul_pos (List.length_pos_iff.mpr solid.1) (ih solid.2)

/-- The odometer starts with the first value of each parameter. -/
theorem shows_of_wheelsFor {wheels : List Wheel}
    (found : wheelsFor overrides defaults names = .ok wheels) :
    ∀ wheel ∈ wheels, wheel.shows = 0 := by
  induction names generalizing wheels with
  | nil =>
      cases found
      simp
  | cons name names ih =>
      rcases wheelsFor_cons found with ⟨values, others, -, othersFound, rfl⟩
      rw [List.forall_mem_cons]
      exact ⟨rfl, ih othersFound⟩

/-- The number of choices of values. -/
def choices (wheels : List Wheel) : Nat := size ⟨wheels, false⟩

@[simp]
theorem choices_nil : choices [] = 1 := rfl

@[simp]
theorem choices_cons (wheel : Wheel) (wheels : List Wheel) :
    choices (wheel :: wheels) = wheel.values.length * choices wheels :=
  rfl

/-- Wheels that show the digits of a number; the digit of the first one counts least. -/
def setTo (number : Nat) : List Wheel → List Wheel
  | [] => []
  | wheel :: wheels =>
    { wheel with shows := number % wheel.values.length } ::
      setTo (number / wheel.values.length) wheels

/-- The choice of values with a number. -/
def choice (wheels : List Wheel) (number : Nat) : ParameterSet :=
  reading ⟨setTo number wheels, false⟩

/-- The odometer after some of its readings. -/
def after (wheels : List Wheel) (number : Nat) : Odometer :=
  ⟨setTo number wheels, decide (choices wheels ≤ number)⟩

section Digits

variable {number base : Nat}

theorem digit_succ (inner : number % base + 1 < base) :
    (number + 1) / base = number / base ∧ (number + 1) % base = number % base + 1 := by
  have parts := Nat.div_add_mod number base
  rw [Nat.div_mod_unique (by omega)]
  omega

theorem carry_succ (round : number % base + 1 = base) :
    (number + 1) / base = number / base + 1 ∧ (number + 1) % base = 0 := by
  have parts := Nat.div_add_mod number base
  rw [Nat.div_mod_unique (by omega), Nat.mul_succ]
  omega

end Digits

theorem setTo_zero {wheels : List Wheel} (first : ∀ wheel ∈ wheels, wheel.shows = 0) :
    setTo 0 wheels = wheels := by
  induction wheels with
  | nil => rfl
  | cons wheel wheels ih =>
      rw [List.forall_mem_cons] at first
      rw [setTo, Nat.zero_mod, Nat.zero_div, ih first.2, ← first.1]

theorem pairs_choice_cons (wheel : Wheel) (wheels : List Wheel) (number : Nat) :
    (choice (wheel :: wheels) number).pairs =
      (wheel.name, wheel.values.getD (number % wheel.values.length) "") ::
        (choice wheels (number / wheel.values.length)).pairs :=
  rfl

section Counting

variable {wheels : List Wheel} (solid : ∀ wheel ∈ wheels, wheel.values ≠ [])

include solid

/-- Turning the wheels counts; they have all come round after as many turns as there are choices. -/
theorem turn_setTo (number : Nat) :
    turn (setTo number wheels) =
      (setTo (number + 1) wheels, decide (choices wheels ∣ number + 1)) := by
  induction wheels generalizing number with
  | nil => simp [setTo, turn]
  | cons wheel wheels ih =>
      rw [List.forall_mem_cons] at solid
      have positive : 0 < wheel.values.length := List.length_pos_iff.mpr solid.1
      have below := Nat.mod_lt number positive
      simp only [setTo, turn, ih solid.2]
      by_cases inner : number % wheel.values.length + 1 < wheel.values.length
      · rcases digit_succ inner with ⟨rest, digit⟩
        have unfinished : ¬ choices (wheel :: wheels) ∣ number + 1 := by
          intro divides
          have own : wheel.values.length ∣ number + 1 := dvd_trans (Nat.dvd_mul_right _ _) divides
          rw [Nat.dvd_iff_mod_eq_zero, digit] at own
          omega
        simp only [if_pos inner, digit, rest, unfinished, decide_false]
      · rcases @carry_succ number wheel.values.length (by omega) with ⟨rest, digit⟩
        have whole : number + 1 = wheel.values.length * (number / wheel.values.length + 1) := by
          rw [← rest, Nat.mul_div_cancel' (Nat.dvd_of_mod_eq_zero digit)]
        have divides : choices (wheel :: wheels) ∣ number + 1 ↔
            choices wheels ∣ number / wheel.values.length + 1 := by
          rw [choices_cons, whole, Nat.mul_dvd_mul_iff_left positive]
        simp only [if_neg inner, digit, rest, divides]

theorem next?_after (number : Nat) :
    (after wheels number).next? =
      if number < choices wheels then some (choice wheels number, after wheels (number + 1))
      else none := by
  by_cases below : number < choices wheels
  · have finished : choices wheels ∣ number + 1 ↔ choices wheels ≤ number + 1 := by
      constructor
      · exact Nat.le_of_dvd (by omega)
      · intro enough
        rw [show choices wheels = number + 1 by omega]
    have unfinished : ¬ choices wheels ≤ number := by omega
    simp only [after, next?, unfinished, decide_false, turn_setTo solid, finished, if_pos below]
    rfl
  · have finished : choices wheels ≤ number := by omega
    simp [after, next?, finished, below]

theorem take_after {count number : Nat} (enough : number + count ≤ choices wheels) :
    (take count (after wheels number)).1 = (List.range' number count).map (choice wheels) := by
  induction count generalizing number with
  | zero => rfl
  | succ count ih =>
      have below : number < choices wheels := by omega
      have rest := @ih (number + 1) (by omega)
      rw [take, next?_after solid, if_pos below, List.range'_succ, List.map_cons, ← rest]

end Counting

/-- An odometer that was started has read nothing yet. -/
theorem eq_after_of_start {odometer : Odometer}
    (started : start names overrides defaults = .ok odometer) :
    wheelsFor overrides defaults names = .ok odometer.wheels ∧
      odometer = after odometer.wheels 0 := by
  rw [start] at started
  cases found : wheelsFor overrides defaults names with
  | error error =>
      rw [found] at started
      cases started
  | ok wheels =>
      rw [found] at started
      cases started
      have positive : 0 < choices wheels := @size_pos ⟨wheels, false⟩ (wheelsFor_solid found)
      refine ⟨rfl, ?_⟩
      simp [after, setTo_zero (shows_of_wheelsFor found), positive.ne']

/-- An odometer that was started reads each choice, by its number. -/
theorem readings_eq {odometer : Odometer}
    (started : start names overrides defaults = .ok odometer) :
    wheelsFor overrides defaults names = .ok odometer.wheels ∧
      odometer.readings = (List.range (choices odometer.wheels)).map (choice odometer.wheels) := by
  rcases eq_after_of_start started with ⟨found, unread⟩
  have taken := @take_after odometer.wheels (wheelsFor_solid found) odometer.size 0
    (by simp [choices, size])
  rw [← unread] at taken
  exact ⟨found, by rw [readings, taken, List.range_eq_range']; rfl⟩

/-- There is a choice of values wherever there are values to choose from. -/
theorem readings_ne_nil {odometer : Odometer}
    (started : start names overrides defaults = .ok odometer) : odometer.readings ≠ [] := by
  rcases readings_eq started with ⟨found, readings⟩
  have positive : 0 < choices odometer.wheels := @size_pos odometer (wheelsFor_solid found)
  simp [readings, positive.ne']

/-- Choices with different numbers are different if no wheel has a value twice. -/
theorem choice_inj {wheels : List Wheel} (distinct : ∀ wheel ∈ wheels, wheel.values.Nodup)
    {number other : Nat} (below : number < choices wheels) (otherBelow : other < choices wheels)
    (same : choice wheels number = choice wheels other) : number = other := by
  induction wheels generalizing number other with
  | nil =>
      rw [choices_nil] at below otherBelow
      omega
  | cons wheel wheels ih =>
      rw [List.forall_mem_cons] at distinct
      have positive : 0 < wheel.values.length := by
        apply Nat.pos_of_ne_zero
        intro none
        simp [none] at below
      have digits (number : Nat) : number % wheel.values.length < wheel.values.length :=
        Nat.mod_lt number positive
      have pairs := congrArg ParameterSet.pairs same
      rw [pairs_choice_cons, pairs_choice_cons, List.cons.injEq, Prod.mk.injEq,
        List.getD_eq_getElem _ _ (digits number), List.getD_eq_getElem _ _ (digits other),
        distinct.1.getElem_inj_iff] at pairs
      rcases pairs with ⟨⟨-, digit⟩, rest⟩
      have upper : number / wheel.values.length = other / wheel.values.length := by
        apply ih distinct.2
        · exact Nat.div_lt_of_lt_mul below
        · exact Nat.div_lt_of_lt_mul otherBelow
        · exact congrArg ParameterSet.mk rest
      rw [← Nat.div_add_mod number wheel.values.length, digit, upper,
        Nat.div_add_mod other wheel.values.length]

end Odometer

end Microbench
