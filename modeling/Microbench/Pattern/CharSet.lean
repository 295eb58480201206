/-!
# Sets of characters

A set of characters is a list of ranges of code points.  Ranges may overlap and need no order; a
complement takes the gaps between the ranges, lowest first.
-/

namespace Microbench

/-- A set of characters, given by the first and last code points of ranges. -/
structure CharSet where
  ranges : List (Nat × Nat)
deriving DecidableEq

namespace CharSet

def empty : CharSet := ⟨[]⟩

def single (char : Char) : CharSet := ⟨[(char.toNat, char.toNat)]⟩

/-- The characters from one to another, both included. -/
def between (first last : Char) : CharSet := ⟨[(first.toNat, last.toNat)]⟩

def ofText (text : String) : CharSet := ⟨text.toList.map fun char => (char.toNat, char.toNat)⟩

/-- Whether a code point is in the set. -/
def hasCode (set : CharSet) (code : Nat) : Bool :=
  set.ranges.any fun range => range.1 ≤ code && code ≤ range.2

/-- Whether a character is in the set. -/
def contains (set : CharSet) (char : Char) : Bool := set.hasCode char.toNat

/-- The characters of either set. -/
def union (a b : CharSet) : CharSet := ⟨a.ranges ++ b.ranges⟩

/-- The largest code point. -/
def lastCode : Nat := 0x10ffff

/-- What ranges with ascending first code points leave of the code points from `start` on. -/
def gaps : Nat → List (Nat × Nat) → List (Nat × Nat)
  | start, [] => if start ≤ lastCode then [(start, lastCode)] else []
  | start, (first, last) :: ranges =>
    let rest := gaps (max start (last + 1)) ranges
    if start < first then (start, first - 1) :: rest else rest

def complement (set : CharSet) : CharSet :=
  ⟨gaps 0 (set.ranges.mergeSort fun a b => a.1 ≤ b.1)⟩

/-- The set with as few ranges as it needs. -/
def compact (set : CharSet) : CharSet := set.complement.complement

/-- The characters of both sets. -/
def inter (a b : CharSet) : CharSet := (a.complement.union b.complement).complement

/-- The characters of the first set that are not in the second. -/
def diff (a b : CharSet) : CharSet := (a.complement.union b).complement

/-- The characters of one of the sets only. -/
def symmDiff (a b : CharSet) : CharSet := (a.diff b).union (b.diff a)

end CharSet

end Microbench
