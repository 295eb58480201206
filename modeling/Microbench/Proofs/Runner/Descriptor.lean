import Microbench.CommandLine.Surroundings
import Microbench.Proofs.Files.Frame
import Microbench.Proofs.Json.Parts
import Microbench.Runner.Descriptor

/-!
# Run descriptors read back

A step that loads the descriptor of a run gets back the run's name, settings and parameters,
whatever texts they hold.
-/

namespace Microbench

namespace Json

theorem list?_ofPairs (pairs : List (String × String)) :
    list? textPair? ((ofPairs pairs).map some) = some pairs := by
  rw [ofPairs, list?_map, List.map_id]
  exact fun _ => rfl

theorem hasLexemes_ofPairs (pairs : List (String × String)) : HasLexemes (ofPairs pairs) := by
  rw [ofPairs, HasLexemes, itemsHaveLexemes_iff, List.forall_mem_map]
  intro pair _
  simp [HasLexemes, ItemsHaveLexemes]

end Json

namespace TimeUnit

theorem ofName?_name (unit : TimeUnit) : ofName? unit.name = some unit := by
  cases unit <;> decide

end TimeUnit

namespace Mode

theorem ofName?_name (mode : Mode) : ofName? mode.name = some mode := by
  cases mode <;> decide

end Mode

namespace IterationTime

theorem ofJson?_toJson (time : IterationTime) : ofJson? (time.toJson.map some) = some time := by
  have value := Json.uint64?_ofNat time.value
  have unit := TimeUnit.ofName?_name time.unit
  simp [ofJson?, toJson, Json.map, Json.mapMembers, Json.fields?, Json.valuesOf, Json.literal?,
    Json.ofNat, value, unit]

end IterationTime

namespace Settings

theorem hasLexemes_toJson (settings : Settings) : Json.HasLexemes settings.toJson := by
  have options := Json.hasLexemes_ofPairs settings.advanced.entries
  simp [toJson, IterationTime.toJson, Json.HasLexemes, Json.MembersHaveLexemes, Json.ofNat,
    Json.isLexeme_digits, options]

theorem ofJson?_toJson (settings : Settings) :
    ofJson? (settings.toJson.map some) = some settings := by
  have iterations := Json.uint32?_ofNat settings.iterations
  have warmups := Json.uint32?_ofNat settings.warmups
  have time := IterationTime.ofJson?_toJson settings.iterationTime
  have unit := TimeUnit.ofName?_name settings.outputUnit
  have mode := Mode.ofName?_name settings.mode
  have options := Json.list?_ofPairs settings.advanced.entries
  simp [ofJson?, toJson, fieldNames, Json.map, Json.mapMembers, Json.fields?, Json.valuesOf,
    Json.literal?, Json.ofNat, iterations, warmups, time, unit, mode, options]

theorem ofText?_compact (settings : Settings) :
    ofText? settings.toJson.compact = some settings := by
  have tree := Json.read?_write Json.compactLayout_isBlank 0 settings.hasLexemes_toJson
  rw [ofText?, Json.compact, String.toList_ofList, tree]
  exact settings.ofJson?_toJson

end Settings

namespace ParameterSet

theorem ofJson?_toJson (parameters : ParameterSet) :
    ofJson? (parameters.toJson.map some) = some parameters := by
  rw [ofJson?, toJson, Json.list?_ofPairs]
  rfl

end ParameterSet

namespace RunDescriptor

theorem hasLexemes_toJson (descriptor : RunDescriptor) :
    Json.HasLexemes descriptor.toJson := by
  have settings := Settings.hasLexemes_toJson descriptor.settings
  have parameters := Json.hasLexemes_ofPairs descriptor.parameters.pairs
  simp [toJson, ParameterSet.toJson, Json.HasLexemes, Json.MembersHaveLexemes, settings,
    parameters]

theorem ofJson?_toJson (descriptor : RunDescriptor) :
    ofJson? (descriptor.toJson.map some) = some descriptor := by
  have settings := Settings.ofJson?_toJson descriptor.settings
  have parameters := ParameterSet.ofJson?_toJson descriptor.parameters
  simp [ofJson?, toJson, fieldNames, Json.map, Json.mapMembers, Json.fields?, Json.valuesOf,
    Json.text?, settings, parameters]

/-- The text of a descriptor is read as this descriptor. -/
theorem ofText?_text (descriptor : RunDescriptor) :
    ofText? descriptor.text = some descriptor := by
  have tree := Json.read?_write Json.prettyLayout_isBlank 0 descriptor.hasLexemes_toJson
  rw [ofText?, text, Json.pretty, String.toList_ofList, tree]
  exact descriptor.ofJson?_toJson

/-- A descriptor that was saved in a file is loaded from there; its settings can also be read from
a text in one line. -/
theorem load_saved [WorkingDirectory] (descriptor : RunDescriptor) :
    (∀ (files later : FileStore) (path : String),
      files.write? path descriptor.text = some later →
        (later.read? path).bind ofText? = some descriptor) ∧
      Settings.ofText? descriptor.settings.toJson.compact = some descriptor.settings := by
  constructor
  · intro files later path written
    have reads := FileStore.read?_write written
    simp only [reads, Option.bind_some]
    exact descriptor.ofText?_text
  · exact descriptor.settings.ofText?_compact

end RunDescriptor

namespace Demonstration

/-- A descriptor with the largest counts, repeated names, and texts that have to be escaped. -/
def trickyDescriptor : RunDescriptor where
  benchmark := "demo.\\\"Tricky\\\".\x00\x1f\n"
  settings :=
    ⟨4294967295, 0, ⟨18446744073709551615, .minutes⟩, .nanoseconds, .averageTime,
      ⟨[("", "\\u0041"), ("", "\t")]⟩⟩
  parameters := ⟨[("size", "\""), ("size", "…\r\x08\x0c"), ("", "\x7f")]⟩

/-- The descriptor can be saved where nothing is yet, and is loaded from there. -/
theorem load_saved_tricky :
    ∃ later, FileStore.empty.write? "run.json" trickyDescriptor.text = some later ∧
      (later.read? "run.json").bind RunDescriptor.ofText? = some trickyDescriptor ∧
      Settings.ofText? trickyDescriptor.settings.toJson.compact =
        some trickyDescriptor.settings := by
  have admits : FileStore.empty.Admits ["run.json"] := by
    apply FileStore.admits_empty
    intro path member
    rw [List.mem_singleton.mp member]
    exact ⟨by simp [Route.isName, Route.nameLimit]; decide, by decide, by decide⟩
  rcases admits.write? (List.mem_singleton_self _) trickyDescriptor.text with ⟨later, written⟩
  rcases RunDescriptor.load_saved trickyDescriptor with ⟨loads, settings⟩
  exact ⟨later, written, loads .empty later "run.json" written, settings⟩

end Demonstration

end Microbench
