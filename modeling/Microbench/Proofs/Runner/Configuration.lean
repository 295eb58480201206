import Microbench.Proofs.Runner.Keys
import Microbench.Proofs.Settings.Literals
import Microbench.Proofs.Settings.Options

/-!
# The grammar of configurations

Every line that is not empty has a key and a value. A text is a configuration exactly if its keys
have the values that they should have, and then it says what every setting is. Otherwise the error
is that of the first check that fails, in an order of the keys that has nothing to do with the
order of the lines.
-/

namespace Microbench

namespace Runner.Entry

/-- A line gives the key before its first colon the value after it; without a colon it is a key
with an empty value. -/
inductive Stands : List Char → Entry → Prop where
  | colon {entry : Entry} (first : ':' ∉ entry.key.toList) :
    Stands (entry.key.toList ++ ':' :: entry.value.toList) entry
  | bare {key : String} (noColon : ':' ∉ key.toList) : Stands key.toList ⟨key, ""⟩

theorem stands_ofLine (line : List Char) : Stands line (ofLine line) := by
  rw [ofLine]
  cases found : Text.splitFirst? ':' line with
  | none =>
      have noColon := Text.splitFirst?_eq_none_iff.mp found
      have bare := @Stands.bare (String.ofList line) (by simpa using noColon)
      rwa [String.toList_ofList] at bare
  | some parts =>
      rcases Text.splitFirst?_eq_some_iff.mp found with ⟨first, rfl⟩
      have colon := @Stands.colon ⟨String.ofList parts.1, String.ofList parts.2⟩
        (by simpa using first)
      simpa using colon

theorem stands_ofText (text : String) :
    List.Forall₂ Stands ((Text.lines text.toList).filter fun line => !line.isEmpty)
      (ofText text) := by
  rw [ofText, List.forall₂_map_right_iff, List.forall₂_same]
  intro line _
  exact stands_ofLine line

end Runner.Entry

namespace RunnerConfiguration

open Runner

section Storing

/-- Adds a parameter value unless its name is blank. -/
def pushChecked (parameters : ParameterValues) (pair : String × String) :
    Except SettingError ParameterValues :=
  if Text.isBlank pair.1.toList then .error (.blankParameter pair.1)
  else .ok (parameters.push pair.1 pair.2)

theorem pushAll_cons (parameters : ParameterValues) (pair : String × String)
    (pairs : List (String × String)) : pushAll parameters (pair :: pairs) =
      (pushChecked parameters pair).bind fun next => pushAll next pairs := by
  rw [pushAll, pushChecked]
  split <;> rfl

theorem settles_pushChecked (parameters : ParameterValues) (pair : String × String) :
    Settles (pushChecked parameters pair)
      (fun next => Text.isBlank pair.1.toList = false ∧ parameters.push pair.1 pair.2 = next)
      (fun error => Text.isBlank pair.1.toList = true ∧ error = .blankParameter pair.1) :=
  .of_test _ _ _

/-- Values of parameters are stored up to the first with a blank name; each parameter has all its
values. -/
theorem settles_pushAll (pairs : List (String × String)) :
    Settles (pushAll .empty pairs)
      (fun parameters => (∀ pair ∈ pairs, Text.isBlank pair.1.toList = false) ∧
        parameters.entries = Entries.grouped pairs)
      (First (pairs.map fun pair error =>
        Text.isBlank pair.1.toList = true ∧ error = .blankParameter pair.1)) := by
  have stored : pairs.foldl (fun parameters pair => parameters.push pair.1 pair.2) .empty =
      (⟨Entries.updateAll (fun value earlier => earlier.getD [] ++ [value]) pairs⟩ :
        ParameterValues) :=
    List.foldl_hom ParameterValues.mk fun _ _ => rfl
  apply (Settles.run (fun _ => rfl) pushAll_cons settles_pushChecked .empty pairs).congr
  · rintro ⟨parameters⟩
    rw [stored, Entries.updateAll_push, ParameterValues.mk.injEq, eq_comm]
  · simp

/-- What is wrong with an option is wrong with the settings. -/
theorem settles_options (pairs : List (String × String)) :
    Settles ((AdvancedOptions.empty.insertAll pairs).mapError SettingError.advanced)
      (fun options => (∀ pair ∈ pairs, AdvancedOptions.IsOption pair.1 pair.2) ∧
        options.entries = Entries.latest "" pairs)
      (First (pairs.map fun pair error => ∃ cause,
        AdvancedOptions.problem? pair.1 pair.2 = some cause ∧ .advanced cause = error)) := by
  apply ((AdvancedOptions.settles_insertAll pairs).mapError SettingError.advanced).congr
  · simp
  · intro error
    rw [← first_map_iff, List.map_map]
    rfl

end Storing

/-- A check of the values of one key. -/
structure Check where
  key : String
  fails : List String → SettingError → Prop

namespace Check

/-- A key that has to be there once, with a value that is not wrong. -/
def required (key : String) (wrong : String → SettingError → Prop) : Check :=
  ⟨key, KeyFault key True wrong⟩

/-- A key that may be there once, with a value that is not wrong. -/
def optional (key : String) (wrong : String → SettingError → Prop) : Check :=
  ⟨key, KeyFault key False wrong⟩

def number (key : String) (least : Least) (most : Int) : Check :=
  optional key (NumberFault key least most)

def unit (key : String) : Check :=
  optional key (Unsupported "time unit" (TimeUnit.all.flatMap TimeUnit.literals) TimeUnit.IsNamed)

/-- A key for pairs that are not wrong. -/
def pairs (key : String) (wrong : String × String → SettingError → Prop) : Check :=
  ⟨key, PairsFault key wrong⟩

/-- A key for patterns none of which is blank. -/
def patterns (key : String) : Check :=
  ⟨key, fun values => First (values.map fun pattern error =>
    Text.isBlank pattern.toList = true ∧ error = .blankPattern key pattern)⟩

/-- All checks, in the order that decides which error is told. -/
def all : List Check :=
  [required "name" fun _ _ => False,
    required "reportFile" fun _ _ => False,
    required "traceFormat"
      (Unsupported "traceFormat" (TraceFormat.all.map TraceFormat.name) TraceFormat.IsNamed),
    optional "reportFormat"
      (Unsupported "reportFormat" (ReportFormat.all.map ReportFormat.name) ReportFormat.IsNamed),
    pairs "param" fun pair error =>
      Text.isBlank pair.1.toList = true ∧ error = .blankParameter pair.1,
    pairs "advanced" fun pair error => ∃ cause,
      AdvancedOptions.problem? pair.1 pair.2 = some cause ∧ .advanced cause = error,
    number "iterations" .one (2 ^ 31 - 1),
    number "warmups" .zero (2 ^ 31 - 1),
    number "iterationTime" .one (2 ^ 63 - 1),
    unit "iterationTimeUnit",
    unit "outputTimeUnit",
    optional "mode" (Unsupported "mode" (Mode.all.flatMap Mode.literals) Mode.IsNamed),
    patterns "include",
    patterns "exclude"]

end Check

/-- What the values of the keys say about each setting. -/
structure Describes (values : String → List String) (configuration : RunnerConfiguration) :
    Prop where
  name : values "name" = [configuration.name]
  reportFile : values "reportFile" = [configuration.reportFile]
  traceFormat : values "traceFormat" = [configuration.traceFormat.name]
  /-- Without a value, reports are JSON. -/
  reportFormat : ∃ format, Written ReportFormat.IsNamed (values "reportFormat") format ∧
    configuration.reportFormat = format.getD .json
  /-- Each parameter has all values that are given with its name, in their order. -/
  parameters : ∃ pairs, List.Forall₂ IsPair (values "param") pairs ∧
    (∀ pair ∈ pairs, Text.isBlank pair.1.toList = false) ∧
    configuration.parameters.entries = Entries.grouped pairs
  /-- Each option has the last value that is given with its name. -/
  advanced : ∃ pairs, List.Forall₂ IsPair (values "advanced") pairs ∧
    (∀ pair ∈ pairs, AdvancedOptions.IsOption pair.1 pair.2) ∧
    configuration.advanced.entries = Entries.latest "" pairs
  iterations : Written (IsNumber 1 (2 ^ 31 - 1)) (values "iterations")
    (configuration.overrides.iterations.map UInt32.toNat)
  warmups : Written (IsNumber 0 (2 ^ 31 - 1)) (values "warmups")
    (configuration.overrides.warmups.map UInt32.toNat)
  iterationTime : Written (IsNumber 1 (2 ^ 63 - 1)) (values "iterationTime")
    (configuration.overrides.iterationTime.map UInt64.toNat)
  iterationTimeUnit : Written TimeUnit.IsNamed (values "iterationTimeUnit")
    configuration.overrides.iterationTimeUnit
  outputUnit : Written TimeUnit.IsNamed (values "outputTimeUnit")
    configuration.overrides.outputUnit
  mode : Written Mode.IsNamed (values "mode") configuration.overrides.mode
  included : configuration.included = values "include" ∧
    ∀ pattern ∈ values "include", Text.isBlank pattern.toList = false
  excluded : configuration.excluded = values "exclude" ∧
    ∀ pattern ∈ values "exclude", Text.isBlank pattern.toList = false

/-- Values that are there at most once, and then are fine. -/
def IsOptional (isFine : String → Prop) (values : List String) : Prop :=
  values.length ≤ 1 ∧ ∀ value ∈ values, isFine value

/-- The values that the keys of a configuration may have. -/
structure IsWellFormed (values : String → List String) : Prop where
  name : (values "name").length = 1
  reportFile : (values "reportFile").length = 1
  traceFormat : ∃ format : TraceFormat, values "traceFormat" = [format.name]
  reportFormat : IsOptional (fun value => ∃ format, ReportFormat.IsNamed value format)
    (values "reportFormat")
  parameters : ∀ entry ∈ values "param", ∃ pair, IsPair entry pair ∧
    Text.isBlank pair.1.toList = false
  advanced : ∀ entry ∈ values "advanced", ∃ pair, IsPair entry pair ∧
    AdvancedOptions.IsOption pair.1 pair.2
  iterations : IsOptional (fun value => ∃ number, IsNumber 1 (2 ^ 31 - 1) value number)
    (values "iterations")
  warmups : IsOptional (fun value => ∃ number, IsNumber 0 (2 ^ 31 - 1) value number)
    (values "warmups")
  iterationTime : IsOptional (fun value => ∃ number, IsNumber 1 (2 ^ 63 - 1) value number)
    (values "iterationTime")
  iterationTimeUnit : IsOptional (fun value => ∃ unit, TimeUnit.IsNamed value unit)
    (values "iterationTimeUnit")
  outputUnit : IsOptional (fun value => ∃ unit, TimeUnit.IsNamed value unit)
    (values "outputTimeUnit")
  mode : IsOptional (fun value => ∃ mode, Mode.IsNamed value mode) (values "mode")
  included : ∀ pattern ∈ values "include", Text.isBlank pattern.toList = false
  excluded : ∀ pattern ∈ values "exclude", Text.isBlank pattern.toList = false

/-- A number in its range fits the type of a setting. -/
theorem map_map_of_written {α : Type} {narrow : Nat → α} {widen : α → Nat} {least most : Int}
    (keeps : ∀ number : Nat, (number : Int) ≤ most → widen (narrow number) = number)
    {values : List String} {number : Option Nat}
    (written : Written (IsNumber least most) values number) :
    (number.map narrow).map widen = number := by
  cases written with
  | missing => rfl
  | given isNumber => rw [Option.map_some, Option.map_some, keeps _ isNumber.2.2]

theorem toNat_ofNat_count (number : Nat) (small : (number : Int) ≤ 2 ^ 31 - 1) :
    (UInt32.ofNat number).toNat = number :=
  UInt32.toNat_ofNat_of_lt' (by rw [UInt32.size]; omega)

theorem toNat_ofNat_time (number : Nat) (small : (number : Int) ≤ 2 ^ 63 - 1) :
    (UInt64.ofNat number).toNat = number :=
  UInt64.toNat_ofNat_of_lt' (by rw [UInt64.size]; omega)

theorem isOptional_iff {α : Type} {stands : String → α → Prop} {values : List String} :
    IsOptional (fun value => ∃ item, stands value item) values ↔
      ∃ item, Written stands values item := by
  rw [IsOptional]
  rcases values with _ | ⟨value, _ | ⟨other, values⟩⟩
  · simp [written_nil_iff]
  · simp [written_singleton_iff]
  · simp [not_written_several]

theorem exists_pairs_iff {isFine : String × String → Prop} {entries : List String} :
    (∀ entry ∈ entries, ∃ pair, IsPair entry pair ∧ isFine pair) ↔
      ∃ pairs, List.Forall₂ IsPair entries pairs ∧ ∀ pair ∈ pairs, isFine pair := by
  induction entries with
  | nil => simp
  | cons entry entries ih =>
      rw [List.forall_mem_cons, ih]
      constructor
      · rintro ⟨⟨pair, isPair, own⟩, pairs, arePairs, others⟩
        refine ⟨pair :: pairs, .cons isPair arePairs, ?_⟩
        rw [List.forall_mem_cons]
        exact ⟨own, others⟩
      · rintro ⟨_, arePairs, areFine⟩
        cases arePairs with
        | cons isPair arePairs =>
            rw [List.forall_mem_cons] at areFine
            exact ⟨⟨_, isPair, areFine.1⟩, _, arePairs, areFine.2⟩

/-- Values that are well formed describe a configuration, and only these. -/
theorem exists_describes_iff {values : String → List String} :
    (∃ configuration, Describes values configuration) ↔ IsWellFormed values := by
  constructor
  · rintro ⟨configuration, describes⟩
    rcases describes.reportFormat with ⟨format, ownFormat, -⟩
    rcases describes.parameters with ⟨pairs, arePairs, named, -⟩
    rcases describes.advanced with ⟨options, areOptions, known, -⟩
    exact {
      name := by rw [describes.name]; rfl
      reportFile := by rw [describes.reportFile]; rfl
      traceFormat := ⟨_, describes.traceFormat⟩
      reportFormat := isOptional_iff.mpr ⟨_, ownFormat⟩
      parameters := exists_pairs_iff.mpr ⟨pairs, arePairs, named⟩
      advanced := exists_pairs_iff.mpr ⟨options, areOptions, known⟩
      iterations := isOptional_iff.mpr ⟨_, describes.iterations⟩
      warmups := isOptional_iff.mpr ⟨_, describes.warmups⟩
      iterationTime := isOptional_iff.mpr ⟨_, describes.iterationTime⟩
      iterationTimeUnit := isOptional_iff.mpr ⟨_, describes.iterationTimeUnit⟩
      outputUnit := isOptional_iff.mpr ⟨_, describes.outputUnit⟩
      mode := isOptional_iff.mpr ⟨_, describes.mode⟩
      included := describes.included.2
      excluded := describes.excluded.2 }
  · intro wellFormed
    rcases List.length_eq_one_iff.mp wellFormed.name with ⟨name, ownName⟩
    rcases List.length_eq_one_iff.mp wellFormed.reportFile with ⟨reportFile, ownFile⟩
    rcases wellFormed.traceFormat with ⟨traceFormat, ownTrace⟩
    rcases isOptional_iff.mp wellFormed.reportFormat with ⟨reportFormat, ownFormat⟩
    rcases exists_pairs_iff.mp wellFormed.parameters with ⟨pairs, arePairs, named⟩
    rcases exists_pairs_iff.mp wellFormed.advanced with ⟨options, areOptions, known⟩
    rcases isOptional_iff.mp wellFormed.iterations with ⟨iterations, ownIterations⟩
    rcases isOptional_iff.mp wellFormed.warmups with ⟨warmups, ownWarmups⟩
    rcases isOptional_iff.mp wellFormed.iterationTime with ⟨iterationTime, ownTime⟩
    rcases isOptional_iff.mp wellFormed.iterationTimeUnit with ⟨iterationTimeUnit, ownTimeUnit⟩
    rcases isOptional_iff.mp wellFormed.outputUnit with ⟨outputUnit, ownUnit⟩
    rcases isOptional_iff.mp wellFormed.mode with ⟨mode, ownMode⟩
    refine ⟨{
      name, reportFile, traceFormat
      reportFormat := reportFormat.getD .json
      parameters := ⟨Entries.grouped pairs⟩
      included := values "include"
      excluded := values "exclude"
      overrides := {
        iterations := iterations.map UInt32.ofNat
        warmups := warmups.map UInt32.ofNat
        iterationTime := iterationTime.map UInt64.ofNat
        iterationTimeUnit, outputUnit, mode }
      advanced := ⟨Entries.latest "" options⟩ }, ?_⟩
    exact {
      name := ownName
      reportFile := ownFile
      traceFormat := ownTrace
      reportFormat := ⟨reportFormat, ownFormat, rfl⟩
      parameters := ⟨pairs, arePairs, named, rfl⟩
      advanced := ⟨options, areOptions, known, rfl⟩
      iterations := by rwa [map_map_of_written toNat_ofNat_count ownIterations]
      warmups := by rwa [map_map_of_written toNat_ofNat_count ownWarmups]
      iterationTime := by rwa [map_map_of_written toNat_ofNat_time ownTime]
      iterationTimeUnit := ownTimeUnit
      outputUnit := ownUnit
      mode := ownMode
      included := ⟨rfl, wellFormed.included⟩
      excluded := ⟨rfl, wellFormed.excluded⟩ }

theorem settles_parse (text : String) :
    let given := values (Entry.ofText text)
    Settles (parse text) (Describes given)
      (First (Check.all.map fun check => check.fails (given check.key))) := by
  intro given
  have count : (maxCount : Int) = 2 ^ 31 - 1 := by decide
  have time : (maxTime : Int) = 2 ^ 63 - 1 := by decide
  have smallCount : (maxCount : Int) < 2 ^ 63 := by decide
  have smallTime : (maxTime : Int) < 2 ^ 63 := by decide
  -- The keys in their order; no check depends on what an earlier one has given.
  have whole :=
    (settles_single "name" (Entry.ofText text)).bind_first fun name _ =>
    (settles_single "reportFile" (Entry.ofText text)).bind_first fun reportFile _ =>
    (settles_required "traceFormat" (Entry.ofText text) TraceFormat.settles_parse).bind_first
      fun traceFormat _ =>
    (settles_parsed? "reportFormat" (Entry.ofText text) settles_parseReportFormat).bind_first
      fun reportFormat _ =>
    (settles_pairs "param" (Entry.ofText text) settles_pushAll).bind_first fun parameters _ =>
    (settles_pairs "advanced" (Entry.ofText text) settles_options).bind_first fun advanced _ =>
    (settles_parsed? "iterations" (Entry.ofText text)
      (settles_parseNumber "iterations" .one smallCount)).bind_first fun iterations _ =>
    (settles_parsed? "warmups" (Entry.ofText text)
      (settles_parseNumber "warmups" .zero smallCount)).bind_first fun warmups _ =>
    (settles_parsed? "iterationTime" (Entry.ofText text)
      (settles_parseNumber "iterationTime" .one smallTime)).bind_first fun iterationTime _ =>
    (settles_parsed? "iterationTimeUnit" (Entry.ofText text) TimeUnit.settles_parse).bind_first
      fun iterationTimeUnit _ =>
    (settles_parsed? "outputTimeUnit" (Entry.ofText text) TimeUnit.settles_parse).bind_first
      fun outputUnit _ =>
    (settles_parsed? "mode" (Entry.ofText text) Mode.settles_parse).bind_first fun mode _ =>
    (settles_patterns "include" (Entry.ofText text)).bind_first fun included _ =>
    (settles_patterns "exclude" (Entry.ofText text)).bind_first fun excluded _ =>
    Settles.of_ok (⟨name, reportFile, traceFormat, reportFormat.getD .json, parameters, included,
      excluded, ⟨iterations.map UInt32.ofNat, warmups.map UInt32.ofNat,
        iterationTime.map UInt64.ofNat, iterationTimeUnit, outputUnit, mode⟩, advanced⟩ :
          RunnerConfiguration)
  apply whole.congr
  · intro configuration
    rw [count, time]
    constructor
    · rintro ⟨name, ownName, reportFile, ownFile, traceFormat, ⟨_, ownTrace, rfl⟩, reportFormat,
        ownFormat, parameters, ⟨pairs, arePairs, named, stored⟩, advanced,
        ⟨options, areOptions, known, storedOptions⟩, iterations, ownIterations, warmups,
        ownWarmups, iterationTime, ownTime, iterationTimeUnit, ownTimeUnit, outputUnit, ownUnit,
        mode, ownMode, included, ⟨ownIncluded, solid⟩, excluded, ⟨ownExcluded, solidToo⟩, rfl⟩
      exact {
        name := ownName
        reportFile := ownFile
        traceFormat := ownTrace
        reportFormat := ⟨reportFormat, ownFormat, rfl⟩
        parameters := ⟨pairs, arePairs, named, stored⟩
        advanced := ⟨options, areOptions, known, storedOptions⟩
        iterations := by rwa [map_map_of_written toNat_ofNat_count ownIterations]
        warmups := by rwa [map_map_of_written toNat_ofNat_count ownWarmups]
        iterationTime := by rwa [map_map_of_written toNat_ofNat_time ownTime]
        iterationTimeUnit := ownTimeUnit
        outputUnit := ownUnit
        mode := ownMode
        included := ⟨ownIncluded, solid⟩
        excluded := ⟨ownExcluded, solidToo⟩ }
    · intro describes
      rcases describes.reportFormat with ⟨format, ownFormat, sameFormat⟩
      refine ⟨_, describes.name, _, describes.reportFile, _, ⟨_, describes.traceFormat, rfl⟩, _,
        ownFormat, _, describes.parameters, _, describes.advanced, _, describes.iterations, _,
        describes.warmups, _, describes.iterationTime, _, describes.iterationTimeUnit, _,
        describes.outputUnit, _, describes.mode, _, describes.included, _, describes.excluded, ?_⟩
      have back : UInt32.ofNat ∘ UInt32.toNat = id := funext fun _ => UInt32.ofNat_toNat
      have backTime : UInt64.ofNat ∘ UInt64.toNat = id := funext fun _ => UInt64.ofNat_toNat
      simp only [← sameFormat, Option.map_map, back, backTime, Option.map_id, id]
  · intro error
    rw [count, time]
    rfl

/-- Which texts are configurations, what they say, and what is wrong with all others. -/
theorem parse_grammar (text : String) :
    let entries := Entry.ofText text
    let given := values entries
    List.Forall₂ Entry.Stands ((Text.lines text.toList).filter fun line => !line.isEmpty) entries ∧
      ((∃ configuration, parse text = .ok configuration) ↔ IsWellFormed given) ∧
      (∀ configuration, parse text = .ok configuration ↔ Describes given configuration) ∧
      ∀ error, parse text = .error error ↔
        First (Check.all.map fun check => check.fails (given check.key)) error := by
  intro entries given
  have settles := settles_parse text
  refine ⟨Entry.stands_ofText text, ?_, settles.ok, settles.error⟩
  rw [← exists_describes_iff]
  exact exists_congr settles.ok

/-- The order of the lines does not matter for the error: the name is checked first. -/
example : parse "mode:fast\nname:b\nreportFile:r\nname:a" = .error (.repeated "name" 2) := by
  decide

end RunnerConfiguration

end Microbench
