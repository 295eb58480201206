import Microbench.Text.Entries

/-!
# Values of parameters

For each parameter the list of its values, in the order in which the parameters were first used.
-/

namespace Microbench

/-- Lists of values by the names of parameters. -/
structure ParameterValues where
  entries : List (String × List String)
deriving DecidableEq, Inhabited

namespace ParameterValues

def empty : ParameterValues := ⟨[]⟩

/-- Adds a value to those of a parameter. -/
def push (values : ParameterValues) (name value : String) : ParameterValues :=
  ⟨Entries.update name (fun earlier => earlier.getD [] ++ [value]) values.entries⟩

def set (values : ParameterValues) (name : String) (list : List String) : ParameterValues :=
  ⟨Entries.update name (fun _ => list) values.entries⟩

def get? (values : ParameterValues) (name : String) : Option (List String) :=
  Entries.find? name values.entries

def names (values : ParameterValues) : List String := Entries.names values.entries

def isEmpty (values : ParameterValues) : Bool := values.entries.isEmpty

end ParameterValues

end Microbench
