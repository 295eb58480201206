import Microbench.Proofs.Json.Parts
import Microbench.Report.Format

/-!
# Reports as JSON read back

A report is a JSON text that stands for one tree, and this tree tells a reader, record by record,
what the results are. The reader is strict: a record has exactly its members, in their order, while
the members of parameters and options are taken as they come, repeated names included. A number is
read as the datum nearest to it, so that finite data are read bit by bit; any other datum is null.
-/

namespace Microbench

namespace Json

/-- The values of an object that has exactly the named members, in this order. -/
def named? (names : List String) : Tree → Option (List Tree)
  | .object members =>
    if members.map Prod.fst = names.map some then some (members.map Prod.snd) else none
  | _ => none

def member? {α : Type} (value? : Tree → Option α) (member : Option String × Tree) :
    Option (String × α) := do
  return (← member.1, ← value? member.2)

/-- The members of an object in order, repeated names included. -/
def entries? {α : Type} (value? : Tree → Option α) : Tree → Option (List (String × α))
  | .object members => members.mapM (member? value?)
  | _ => none

/-- A number, or none where there is null. -/
def amount? : Tree → Option (Option Binary64)
  | .null => some none
  | .number lexeme => (Binary64.read? lexeme).map some
  | _ => none

end Json

namespace Report.JsonRecords

/-- What a reader is told of the measurement of a result. -/
structure Metric where
  score : Option Binary64
  error : Option Binary64
  confidence : List (Option Binary64)
  percentiles : List (String × Option Binary64)
  unit : String
  rawData : List (List (Option Binary64))

/-- What a reader is told of a result. -/
structure Record where
  benchmark : String
  mode : String
  warmups : UInt32
  warmupTime : String
  iterations : UInt32
  iterationTime : String
  parameters : List (String × String)
  options : List (String × String)
  metric : Metric
  others : List (String × Metric)

def metricNames : List String :=
  ["score", "scoreError", "scoreConfidence", "scorePercentiles", "scoreUnit", "rawData"]

def recordNames : List String :=
  ["benchmark", "mode", "warmupIterations", "warmupTime", "measurementIterations",
    "measurementTime", "params", "advanced", "primaryMetric", "secondaryMetrics"]

def metric? (tree : Json.Tree) : Option Metric := do
  match ← Json.named? metricNames tree with
  | [score, error, confidence, percentiles, unit, rawData] =>
    return {
      score := ← Json.amount? score
      error := ← Json.amount? error
      confidence := ← Json.list? Json.amount? confidence
      percentiles := ← Json.entries? Json.amount? percentiles
      unit := ← Json.text? unit
      rawData := ← Json.list? (Json.list? Json.amount?) rawData
    }
  | _ => none

def record? (tree : Json.Tree) : Option Record := do
  match ← Json.named? recordNames tree with
  | [benchmark, mode, warmups, warmupTime, iterations, iterationTime, parameters, options, metric,
      others] =>
    return {
      benchmark := ← Json.text? benchmark
      mode := ← Json.text? mode
      warmups := ← Json.uint32? warmups
      warmupTime := ← Json.text? warmupTime
      iterations := ← Json.uint32? iterations
      iterationTime := ← Json.text? iterationTime
      parameters := ← Json.entries? Json.text? parameters
      options := ← Json.entries? Json.text? options
      metric := ← metric? metric
      others := ← Json.entries? metric? others
    }
  | _ => none

/-- A datum as it can be told, which is only if it is finite. -/
def finite? (datum : Binary64) : Option Binary64 := if datum.isFinite then some datum else none

/-- What a report has to tell of the measurement of a result. -/
def measured (result : RunResult) : Metric where
  score := finite? (.ofFloat result.score)
  error := finite? (.ofFloat result.error)
  confidence :=
    [finite? (.ofFloat result.confidence.1), finite? (.ofFloat result.confidence.2)]
  percentiles := result.percentiles.entries.map fun entry =>
    (percentLabel entry.1, finite? (.ofFloat entry.2))
  unit := result.settings.unitText
  rawData := [result.samples.map finite?]

/-- What a report has to tell of a result. All iterations are of one length. -/
def told (result : RunResult) : Record where
  benchmark := result.benchmark
  mode := result.settings.mode.short
  warmups := result.settings.warmups
  warmupTime := toString result.settings.iterationTime.value.toNat ++ " " ++
    result.settings.iterationTime.unit.short
  iterations := result.settings.iterations
  iterationTime := toString result.settings.iterationTime.value.toNat ++ " " ++
    result.settings.iterationTime.unit.short
  parameters := result.parameters.pairs
  options := result.settings.advanced.entries
  metric := measured result
  others := []

end Report.JsonRecords

namespace Json

open Report.JsonRecords (finite?)

/-! ## Parts of trees -/

theorem count?_ofNat (count : UInt32) : uint32? ((ofNat count.toNat).map some) = some count :=
  uint32?_ofNat count

theorem amount?_ofNumber (datum : Binary64) :
    amount? ((ofNumber datum).map some) = some (finite? datum) := by
  rw [ofNumber, finite?]
  split
  · rename_i finite
    simp [Json.map, amount?, read?_numberText finite]
  · rfl

/-- One, no number, a negative zero, and a number with a power of ten. -/
example : compact (.array ([⟨0x3ff0000000000000⟩, ⟨0x7ff8000000000000⟩, ⟨0x8000000000000000⟩,
    ⟨0x44b52d02c7e14af6⟩].map .ofNumber)) = "[1.0,null,-0.0,1e+23]" := by
  decide +kernel

theorem hasLexemes_ofNumber (datum : Binary64) : HasLexemes (ofNumber datum) := by
  rw [ofNumber]
  split
  · exact isLexeme_iff.mpr (isNumber_numberText datum)
  · trivial

theorem entries?_map {α β : Type} (name : α → String) {value? : Tree → Option β}
    {write : α → Json String} {read : α → β}
    (reads : ∀ entry, value? ((write entry).map some) = some (read entry)) (entries : List α) :
    entries? value?
        ((Json.object (entries.map fun entry => (name entry, write entry))).map some) =
      some (entries.map fun entry => (name entry, read entry)) := by
  rw [Json.map, entries?]
  induction entries with
  | nil => rfl
  | cons entry entries ih => simp [mapMembers, member?, reads, ih]

theorem named?_object {names : List String} {members : List (String × Json String)}
    (same : members.map Prod.fst = names) :
    named? names ((Json.object members).map some) =
      some (members.map fun member => member.2.map some) := by
  rw [Json.map, mapMembers_eq, named?, if_pos]
  · simp
  · simp [← same]

end Json

namespace Report.JsonRecords

open Json (HasLexemes)

theorem entries?_ofEntries (entries : List (String × String)) :
    Json.entries? Json.text? ((ofEntries entries).map some) = some entries := by
  have told := Json.entries?_map Prod.fst (fun entry => Json.text?_string entry.2) entries
  rw [ofEntries, told, List.map_id']

theorem metric?_metric (result : RunResult) :
    metric? ((metric result).map some) = some (measured result) := by
  have amounts := Json.list?_map Json.amount?_ofNumber
  have confidence := amounts [.ofFloat result.confidence.1, .ofFloat result.confidence.2]
  have samples := Json.list?_map amounts [result.samples]
  have percentiles := Json.entries?_map (fun entry : Float × Float => percentLabel entry.1)
    (fun entry => Json.amount?_ofNumber (.ofFloat entry.2)) result.percentiles.entries
  have fields : Json.named? metricNames ((metric result).map some) = some _ :=
    Json.named?_object rfl
  simp only [List.map_cons, List.map_nil, number] at confidence samples fields
  simp [metric?, fields, Json.amount?_ofNumber, confidence, samples, percentiles,
    Json.text?_string, measured]

theorem record?_object (result : RunResult) :
    record? ((object result).map some) = some (told result) := by
  have others : Json.entries? metric? ((Json.object []).map some) = some [] := rfl
  have fields : Json.named? recordNames ((object result).map some) = some _ :=
    Json.named?_object rfl
  simp only [List.map_cons, List.map_nil] at fields
  simp [record?, fields, Json.text?_string, Json.count?_ofNat, entries?_ofEntries,
    metric?_metric, others, told, IterationTime.text]

theorem hasLexemes_ofEntries (entries : List (String × String)) :
    HasLexemes (ofEntries entries) := by
  rw [ofEntries, HasLexemes, Json.membersHaveLexemes_iff, List.forall_mem_map]
  exact fun _ _ => trivial

theorem hasLexemes_number (value : Float) : HasLexemes (number value) :=
  Json.hasLexemes_ofNumber (.ofFloat value)

theorem hasLexemes_metric (result : RunResult) : HasLexemes (metric result) := by
  have percentiles : Json.MembersHaveLexemes (result.percentiles.entries.map fun entry =>
      (percentLabel entry.1, number entry.2)) := by
    rw [Json.membersHaveLexemes_iff, List.forall_mem_map]
    exact fun entry _ => hasLexemes_number entry.2
  have samples : Json.ItemsHaveLexemes (result.samples.map Json.ofNumber) := by
    rw [Json.itemsHaveLexemes_iff, List.forall_mem_map]
    exact fun sample _ => Json.hasLexemes_ofNumber sample
  simp [metric, HasLexemes, Json.MembersHaveLexemes, Json.ItemsHaveLexemes, hasLexemes_number,
    percentiles, samples]

theorem hasLexemes_object (result : RunResult) : HasLexemes (object result) := by
  simp [object, Json.ofNat, HasLexemes, Json.MembersHaveLexemes, Json.isLexeme_digits,
    hasLexemes_ofEntries, hasLexemes_metric]

/-- A report is a JSON text that stands for exactly one tree. This tree is what a reader finds, and
it has one record for each result, in order, that tells what there is to tell of it. -/
theorem render_stands_for_records (results : List RunResult) :
    ∃ tree, (∀ other, Json.IsElement other (ReportFormat.json.render results).toList ↔
        other = tree) ∧
      Json.read? (ReportFormat.json.render results).toList = some (tree.map some) ∧
      Json.list? record? (tree.map some) = some (results.map told) := by
  have lexemes : HasLexemes (.array (results.map object)) := by
    rw [HasLexemes, Json.itemsHaveLexemes_iff, List.forall_mem_map]
    exact fun result _ => hasLexemes_object result
  have isElement := Json.isElement_write Json.prettyLayout_isBlank 0 lexemes
  have text : (ReportFormat.json.render results).toList =
      Json.write Json.prettyLayout 0 (.array (results.map object)) := by
    rw [ReportFormat.render, render, Json.pretty, String.toList_ofList]
  rw [text]
  refine ⟨.array (results.map object), ?_, isElement.read?, ?_⟩
  · intro other
    constructor
    · intro isOther
      exact isOther.unique isElement
    · rintro rfl
      exact isElement
  · exact Json.list?_map record?_object results

end Report.JsonRecords

end Microbench
