import Microbench.Json.Record
import Microbench.Settings.Basic

/-!
# Settings as JSON

The settings of a run are kept in files as a JSON record.
-/

namespace Microbench

/-- An amount of time as a record. -/
def IterationTime.toJson (time : IterationTime) : Json String :=
  .object [("value", .ofNat time.value.toNat), ("unit", .string time.unit.name)]

/-- The amount of time that a record holds. -/
def IterationTime.ofJson? (tree : Json.Tree) : Option IterationTime := do
  match ← Json.fields? ["value", "unit"] tree with
  | [some value, some unit] =>
    return ⟨← Json.uint64? value, ← (Json.literal? unit).bind TimeUnit.ofName?⟩
  | _ => none

namespace Settings

/-- The fields of a record of settings, in order. -/
def fieldNames : List String :=
  ["iterations", "warmups", "iterationTime", "outputTimeUnit", "mode", "advanced"]

def toJson (settings : Settings) : Json String :=
  .object
    [("iterations", .ofNat settings.iterations.toNat),
      ("warmups", .ofNat settings.warmups.toNat),
      ("iterationTime", settings.iterationTime.toJson),
      ("outputTimeUnit", .string settings.outputUnit.name),
      ("mode", .string settings.mode.name),
      ("advanced", .ofPairs settings.advanced.entries)]

/-- The settings that a record holds; a record without options has none. -/
def ofJson? (tree : Json.Tree) : Option Settings := do
  match ← Json.fields? fieldNames tree with
  | [some iterations, some warmups, some time, some unit, some mode, advanced] =>
    let options ← match advanced with
      | some entries => Json.list? Json.textPair? entries
      | none => some []
    return {
      iterations := ← Json.uint32? iterations
      warmups := ← Json.uint32? warmups
      iterationTime := ← IterationTime.ofJson? time
      outputUnit := ← (Json.literal? unit).bind TimeUnit.ofName?
      mode := ← (Json.literal? mode).bind Mode.ofName?
      advanced := ⟨options⟩
    }
  | _ => none

def ofText? (text : String) : Option Settings := (Json.read? text.toList).bind ofJson?

end Settings

end Microbench
