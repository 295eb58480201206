import Microbench.Json.Record
import Microbench.Text.Entries

/-!
# Parameter sets

A run is one benchmark with one value for each of its suite's parameters.  Name and parameters
together identify the run.
-/

namespace Microbench

/-- Parameters with the values they have in a run, in the order of their declaration. -/
structure ParameterSet where
  pairs : List (String × String)
deriving DecidableEq, Inhabited

namespace ParameterSet

def empty : ParameterSet := ⟨[]⟩

/-- Adds a parameter at the end. -/
def push (set : ParameterSet) (name value : String) : ParameterSet :=
  ⟨set.pairs ++ [(name, value)]⟩

/-- The value of a parameter, the first if its name is repeated. -/
def get? (set : ParameterSet) (name : String) : Option String := Entries.find? name set.pairs

def size (set : ParameterSet) : Nat := set.pairs.length

def isEmpty (set : ParameterSet) : Bool := set.pairs.isEmpty

/-- Names and values, in one line. -/
def text (set : ParameterSet) : String :=
  ", ".intercalate (set.pairs.map fun pair => pair.1 ++ "=" ++ pair.2)

def toJson (set : ParameterSet) : Json String := .ofPairs set.pairs

/-- The set that an array of pairs holds. -/
def ofJson? (tree : Json.Tree) : Option ParameterSet :=
  (Json.list? Json.textPair? tree).map ParameterSet.mk

/-- The value of a parameter as `read?` takes it, or else a default. -/
def getOr {α : Type} (set : ParameterSet) (name : String) (read? : String → Option α)
    (default : α) : α :=
  ((set.get? name).bind read?).getD default

end ParameterSet

def runId (name : String) (parameters : ParameterSet) : String :=
  if parameters.isEmpty then name else name ++ " | " ++ parameters.text

end Microbench
