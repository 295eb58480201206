import Microbench.Parameter.Set
import Microbench.Parameter.Values

/-!
# Combinations of parameter values

All choices of one value for each parameter are walked through like the readings of an odometer,
whose first wheel turns fastest.
-/

namespace Microbench

/-- A declared parameter has no values. -/
structure NoValues where
  parameter : String
deriving DecidableEq

def NoValues.message (error : NoValues) : String :=
  "No value specified for parameter '" ++ error.parameter ++ "'"

/-- A parameter, its values, and the number of the value that shows. -/
structure Wheel where
  name : String
  values : List String
  /-- The number of the value that shows. -/
  shows : Nat

/-- Wheels in the order of declaration, and whether all readings have been seen. -/
structure Odometer where
  wheels : List Wheel
  /-- Whether all readings have been seen. -/
  exhausted : Bool

namespace Odometer

/-- The values of a parameter: the overriding ones, or else the default ones. -/
def valuesFor (overrides defaults : ParameterValues) (name : String) :
    Except NoValues (List String) :=
  match overrides.get? name with
  | some (value :: values) => .ok (value :: values)
  | _ =>
    match defaults.get? name with
    | some (value :: values) => .ok (value :: values)
    | _ => .error ⟨name⟩

def wheelsFor (overrides defaults : ParameterValues) : List String → Except NoValues (List Wheel)
  | [] => .ok []
  | name :: names =>
    match valuesFor overrides defaults name with
    | .error error => .error error
    | .ok values =>
      match wheelsFor overrides defaults names with
      | .error error => .error error
      | .ok wheels => .ok (⟨name, values, 0⟩ :: wheels)

/-- The odometer at its first reading. -/
def start (names : List String) (overrides defaults : ParameterValues) :
    Except NoValues Odometer :=
  (wheelsFor overrides defaults names).map fun wheels => ⟨wheels, false⟩

/-- The number of readings. -/
def size (odometer : Odometer) : Nat :=
  (odometer.wheels.map fun wheel => wheel.values.length).foldr (· * ·) 1

def reading (odometer : Odometer) : ParameterSet :=
  ⟨odometer.wheels.map fun wheel => (wheel.name, wheel.values.getD wheel.shows "")⟩

/-- Turns the first wheel, and the next one whenever a wheel comes round; also says whether all
came round. -/
def turn : List Wheel → List Wheel × Bool
  | [] => ([], true)
  | wheel :: wheels =>
    if wheel.shows + 1 < wheel.values.length then
      ({ wheel with shows := wheel.shows + 1 } :: wheels, false)
    else
      let (wheels, round) := turn wheels
      ({ wheel with shows := 0 } :: wheels, round)

/-- The reading, and the odometer turned to the next one. -/
def next? (odometer : Odometer) : Option (ParameterSet × Odometer) :=
  if odometer.exhausted then none
  else
    let (wheels, round) := turn odometer.wheels
    some (odometer.reading, ⟨wheels, round⟩)

/-- At most so many readings, and the odometer after them. -/
def take : Nat → Odometer → List ParameterSet × Odometer
  | 0, odometer => ([], odometer)
  | count + 1, odometer =>
    match odometer.next? with
    | none => ([], odometer)
    | some (reading, odometer) =>
      let (readings, odometer) := take count odometer
      (reading :: readings, odometer)

def readings (odometer : Odometer) : List ParameterSet := (odometer.take odometer.size).1

end Odometer

end Microbench
