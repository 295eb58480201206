import Microbench.Settings.Error

/-!
# Time units

Units of iteration budgets and of reported values.  Amounts of time are whole nanoseconds of
sixty-four bits, and saturate.
-/

namespace Microbench

/-- The largest amount of nanoseconds. -/
def maxNanos : Nat := UInt64.size - 1

/-- An amount of nanoseconds, the largest one if it does not fit. -/
def saturatedNanos (amount : Nat) : UInt64 := UInt64.ofNat (min amount maxNanos)

theorem toNat_saturatedNanos (amount : Nat) :
    (saturatedNanos amount).toNat = min amount maxNanos :=
  UInt64.toNat_ofNat_of_lt' (Nat.lt_of_le_of_lt (Nat.min_le_right amount maxNanos) (by decide))

/-- A unit of time. -/
inductive TimeUnit where
  | nanoseconds
  | microseconds
  | milliseconds
  | seconds
  | minutes
deriving DecidableEq, Inhabited

namespace TimeUnit

/-- All units, from the smallest on. -/
def all : List TimeUnit := [nanoseconds, microseconds, milliseconds, seconds, minutes]

/-- The unit's label. -/
def short : TimeUnit → String
  | nanoseconds => "ns"
  | microseconds => "us"
  | milliseconds => "ms"
  | seconds => "sec"
  | minutes => "min"

/-- The unit's name in files. -/
def name : TimeUnit → String
  | nanoseconds => "NANOSECONDS"
  | microseconds => "MICROSECONDS"
  | milliseconds => "MILLISECONDS"
  | seconds => "SECONDS"
  | minutes => "MINUTES"

/-- The literals that stand for the unit in settings. -/
def literals : TimeUnit → List String
  | nanoseconds => ["NANOSECONDS", "ns", "nanos"]
  | microseconds => ["MICROSECONDS", "us", "micros"]
  | milliseconds => ["MILLISECONDS", "ms", "millis"]
  | seconds => ["SECONDS", "s", "sec"]
  | minutes => ["MINUTES", "m", "min"]

def nanosPerUnit : TimeUnit → Nat
  | nanoseconds => 1
  | microseconds => 1000
  | milliseconds => 1000000
  | seconds => 1000000000
  | minutes => 60000000000

/-- The number of nanoseconds in the unit, to compute with. -/
def multiplier (unit : TimeUnit) : Float := unit.nanosPerUnit.toFloat

def toNanos (unit : TimeUnit) (amount : UInt64) : UInt64 :=
  saturatedNanos (amount.toNat * unit.nanosPerUnit)

def ofName? (text : String) : Option TimeUnit := all.find? fun unit => unit.name == text

/-- The unit that a literal in settings stands for. -/
def parse (text : String) : Except SettingError TimeUnit :=
  match all.find? fun unit => unit.literals.contains text with
  | some unit => .ok unit
  | none => .error (.unsupported "time unit" text (all.flatMap literals))

end TimeUnit

/-- An amount of time in a unit. -/
structure IterationTime where
  /-- How many units. -/
  value : UInt64
  unit : TimeUnit
deriving DecidableEq, Inhabited

namespace IterationTime

/-- The amount in nanoseconds. -/
def nanos (time : IterationTime) : UInt64 := time.unit.toNanos time.value

def text (time : IterationTime) : String := toString time.value.toNat ++ " " ++ time.unit.short

end IterationTime

end Microbench
