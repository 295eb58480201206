import Microbench.Json.Reader
import Microbench.Text.Numeral

/-!
# Typed contents of JSON trees

A record is an object, or an array of its fields in order.  In an object unknown members are
passed over and a field that is there twice is an error; in an array nothing may be left out but
fields at the end.  A literal of an enumeration is a string, or an object with that one name and
no value.
-/

namespace Microbench.Json

def text? : Tree → Option String
  | .string text => text
  | _ => none

/-- The natural number of a numeral of digits alone. -/
def natBelow? (bound : Nat) : Tree → Option Nat
  | .number lexeme => (Numeral.readDigits? lexeme).filter (· < bound)
  | _ => none

/-- A number of thirty-two bits. -/
def uint32? (tree : Tree) : Option UInt32 := (natBelow? UInt32.size tree).map UInt32.ofNat

/-- A number of sixty-four bits. -/
def uint64? (tree : Tree) : Option UInt64 := (natBelow? UInt64.size tree).map UInt64.ofNat

def literal? : Tree → Option String
  | .string text => text
  | .object [(name, .null)] => name
  | _ => none

def list? {α : Type} (item? : Tree → Option α) : Tree → Option (List α)
  | .array items => items.mapM item?
  | _ => none

def textPair? : Tree → Option (String × String)
  | .array [first, second] => do return (← text? first, ← text? second)
  | _ => none

def valuesOf (name : String) (members : List (Option String × Tree)) : List Tree :=
  members.filterMap fun member => if member.1 == some name then some member.2 else none

/-- The fields of a record, in the order of their names. -/
def fields? (names : List String) : Tree → Option (List (Option Tree))
  | .object members =>
    if members.any fun member => member.1.isNone then none
    else
      names.mapM fun name =>
        match valuesOf name members with
        | [] => some none
        | [value] => some (some value)
        | _ => none
  | .array items =>
    if items.length ≤ names.length then
      some (items.map some ++ List.replicate (names.length - items.length) none)
    else none
  | _ => none

/-- Pairs of texts as an array of arrays. -/
def ofPairs {σ : Type} (pairs : List (σ × σ)) : Json σ :=
  .array (pairs.map fun pair => .array [.string pair.1, .string pair.2])

end Microbench.Json
