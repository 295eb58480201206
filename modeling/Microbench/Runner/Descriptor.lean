import Microbench.Parameter.Set
import Microbench.Settings.Json

/-!
# Run descriptors

A run descriptor tells a later step of an execution what a run is.
-/

namespace Microbench

/-- What a run is. -/
structure RunDescriptor where
  benchmark : String
  settings : Settings
  parameters : ParameterSet
deriving DecidableEq

namespace RunDescriptor

def fieldNames : List String := ["benchmark", "configuration", "parameters"]

def toJson (descriptor : RunDescriptor) : Json String :=
  .object
    [("benchmark", .string descriptor.benchmark), ("configuration", descriptor.settings.toJson),
      ("parameters", descriptor.parameters.toJson)]

/-- The descriptor that a record holds. -/
def ofJson? (tree : Json.Tree) : Option RunDescriptor := do
  match ← Json.fields? fieldNames tree with
  | [some benchmark, some settings, some parameters] =>
    return ⟨← Json.text? benchmark, ← Settings.ofJson? settings,
      ← ParameterSet.ofJson? parameters⟩
  | _ => none

def text (descriptor : RunDescriptor) : String := descriptor.toJson.pretty

def ofText? (text : String) : Option RunDescriptor := (Json.read? text.toList).bind ofJson?

end RunDescriptor

end Microbench
