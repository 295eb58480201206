/-!
# Binary floating-point data

A binary64 datum is its 64 bits, so that two data can be told apart and ordered even where
arithmetic identifies them: signed zeros and differently signed NaNs.  A finite datum is a whole
multiple of the least positive one, which makes every question about its decimal texts a question
about natural numbers.
-/

namespace Microbench

/-- A binary64 datum, told apart from others by its bits. -/
structure Binary64 where
  /-- Sign, eleven bits of exponent and fifty-two bits of fraction. -/
  bits : UInt64
deriving DecidableEq, Inhabited

namespace Binary64

/-- The datum a computed number is stored as. -/
def ofFloat (value : Float) : Binary64 := ⟨value.toBits⟩

/-- The number a datum stands for in arithmetic. -/
def toFloat (datum : Binary64) : Float := Float.ofBits datum.bits

def signBit : Nat := 0x8000000000000000

/-- The number of different fractions, which is also the leading bit of a significand. -/
def fractions : Nat := 0x10000000000000

/-- Whether the sign bit is set. -/
def isNegative (datum : Binary64) : Bool := signBit ≤ datum.bits.toNat

def magnitudeBits (datum : Binary64) : Nat := datum.bits.toNat % signBit

def exponentField (datum : Binary64) : Nat := datum.magnitudeBits / fractions

def fractionField (datum : Binary64) : Nat := datum.magnitudeBits % fractions

/-- Magnitude bits of infinity; those of every NaN are larger. -/
def infinityBits : Nat := 0x7ff0000000000000

/-- Power of two by which the significand is scaled, counted from the least exponent. -/
def scale (datum : Binary64) : Nat := datum.exponentField - 1

/-- The significand with its leading bit, which only the smallest exponent leaves out. -/
def significand (datum : Binary64) : Nat :=
  if datum.exponentField = 0 then datum.fractionField else datum.fractionField + fractions

/-- How many times the least positive datum fits into the magnitude of a finite datum. -/
def units (datum : Binary64) : Nat := datum.significand <<< datum.scale

/-- The number of units in one. -/
def unitsPerOne : Nat := 1 <<< 1074

/-- Whether the datum is no number. -/
def isNaN (datum : Binary64) : Bool := infinityBits < datum.magnitudeBits

def isInfinite (datum : Binary64) : Bool := datum.magnitudeBits == infinityBits

/-- Whether the datum is a number with a finite value. -/
def isFinite (datum : Binary64) : Bool := datum.magnitudeBits < infinityBits

def signText (datum : Binary64) : List Char := if datum.isNegative then ['-'] else []

/-- The datum with the given sign and magnitude bits. -/
def ofMagnitude (negative : Bool) (magnitude : Nat) : Binary64 :=
  ⟨UInt64.ofNat (if negative then magnitude + signBit else magnitude)⟩

/-- Place in the total order of data: negative NaNs, negative numbers, negative zero, zero,
positive numbers, positive NaNs. -/
def orderKey (datum : Binary64) : Int :=
  if datum.isNegative then -(datum.magnitudeBits : Int) - 1 else datum.magnitudeBits

/-- The total order of data, in which every datum has a place. -/
def totalLE (first second : Binary64) : Bool := first.orderKey ≤ second.orderKey

theorem bits_toNat (datum : Binary64) :
    datum.bits.toNat = (if datum.isNegative then signBit else 0) + datum.magnitudeBits := by
  have bound := datum.bits.toNat_lt
  unfold isNegative magnitudeBits signBit
  split <;> simp_all <;> omega

theorem isNaN_of_isFinite {datum : Binary64} (finite : datum.isFinite = true) :
    datum.isNaN = false := by
  simp only [isFinite, isNaN, decide_eq_true_eq, decide_eq_false_iff_not] at finite ⊢
  omega

theorem isInfinite_of_isFinite {datum : Binary64} (finite : datum.isFinite = true) :
    datum.isInfinite = false := by
  simp only [isFinite, isInfinite, decide_eq_true_eq, beq_eq_false_iff_ne] at finite ⊢
  omega

/-- Data with one place in the order are one datum. -/
theorem eq_of_orderKey_eq {first second : Binary64} (same : first.orderKey = second.orderKey) :
    first = second := by
  have bitsFirst := first.bits_toNat
  have bitsSecond := second.bits_toNat
  have equal : first.bits.toNat = second.bits.toNat := by
    unfold orderKey at same
    split at same <;> split at same <;> simp_all <;> omega
  cases first
  cases second
  simp only [mk.injEq]
  exact UInt64.toNat_inj.mp equal

theorem totalLE_trans (first second third : Binary64) (le₁ : first.totalLE second)
    (le₂ : second.totalLE third) : first.totalLE third := by
  simp only [totalLE, decide_eq_true_eq] at *
  omega

theorem totalLE_total (first second : Binary64) :
    (first.totalLE second || second.totalLE first) = true := by
  simp only [totalLE, Bool.or_eq_true, decide_eq_true_eq]
  omega

theorem totalLE_antisymm {first second : Binary64} (le₁ : first.totalLE second)
    (le₂ : second.totalLE first) : first = second := by
  simp only [totalLE, decide_eq_true_eq] at *
  exact eq_of_orderKey_eq (by omega)

end Binary64

end Microbench
