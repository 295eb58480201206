import Mathlib.Data.List.Forall2
import Microbench.Proofs.Binary64.Characters
import Microbench.Proofs.Report.SeparatedValues
import Microbench.Proofs.Report.SharedPackage

/-!
# Aligned tables

A table has a header line and a line for each result. Names stand at the left of their column, all
other cells at the right end of theirs, so that each of these columns ends at the same place in all
lines. Each cell is set in full, with a blank or the sign of an error between it and the column
before.
-/

namespace Microbench.Report.Table

/-- A text that ends where its column does, with a mark that stands where the column begins. -/
structure Cell where
  mark : List Char
  text : List Char

namespace Cell

def plain (text : String) : Cell := ⟨[' '], text.toList⟩

/-- An error, with its sign. -/
def signed (text : String) : Cell := ⟨[' ', '±'], text.toList⟩

/-- The cell with some blanks between its mark and its text. -/
def fill (cell : Cell) (blanks : Nat) : List Char :=
  cell.mark ++ List.replicate blanks ' ' ++ cell.text

/-- The cell takes up the whole width of a column. -/
def Fills (cell : Cell) (width : Nat) (part : List Char) : Prop :=
  part.length = width ∧ ∃ blanks, part = cell.fill blanks

/-- Nothing in the cell breaks a line. -/
def IsUnbroken (cell : Cell) : Prop := '\n' ∉ cell.mark ∧ '\n' ∉ cell.text

end Cell

/-- From a place in a line on, cells are set one after the other, each one up to where its column
stops. -/
inductive SetsFrom : Nat → List Nat → List Cell → List Char → Prop
  | nil (start : Nat) : SetsFrom start [] [] []
  | cons {start width : Nat} {stops : List Nat} {cell : Cell} {cells : List Cell}
      {part rest : List Char} (fills : cell.Fills width part)
      (others : SetsFrom (start + width) stops cells rest) :
      SetsFrom start ((start + width) :: stops) (cell :: cells) (part ++ rest)

/-- What a line says. -/
structure Row where
  name : String
  /-- The cells of the columns behind the name. -/
  cells : List Cell

/-- The name stands at the left, and is filled up to where its column stops; then come the cells. -/
def Row.IsSet (row : Row) (nameStop : Nat) (stops : List Nat) (line : List Char) : Prop :=
  ∃ blanks rest, line = row.name.toList ++ List.replicate blanks ' ' ++ rest ∧
    row.name.toList.length + blanks = nameStop ∧ SetsFrom nameStop stops row.cells rest

/-- What a column says. -/
structure Field where
  heading : Cell
  cell : RunResult → Cell

/-- What the columns behind the names say. Each parameter of a result has a column. -/
def fields (results : List RunResult) : List Field :=
  ((results.flatMap fun result => Entries.names result.parameters.pairs).eraseDups.map
    fun parameter => ⟨.plain ("(" ++ parameter ++ ")"),
      fun result => .plain ((result.parameters.get? parameter).getD "N/A")⟩) ++
  [⟨.plain "Mode", fun result => .plain result.settings.mode.short⟩,
    ⟨.plain "Cnt", fun result =>
      .plain (if 1 < result.samples.length then toString result.samples.length else "")⟩,
    ⟨.plain "Score", fun result => .plain (Amount.fixed result.score 3 false)⟩,
    ⟨.plain "Error", fun result =>
      if Amount.isNaNOrZero result.error then .plain ""
      else .signed (Amount.fixed result.error 3 false)⟩,
    ⟨.plain "Units", fun result => .plain result.settings.unitText⟩]

/-- What the header line says. -/
def headingRow (results : List RunResult) : Row :=
  ⟨"Benchmark", (fields results).map Field.heading⟩

/-- What the line of a result says. -/
def row (results : List RunResult) (result : RunResult) : Row :=
  ⟨(SharedPackage.ofNames (results.map RunResult.benchmark)).denseName result.benchmark,
    (fields results).map fun field => field.cell result⟩

variable {results : List RunResult} {width : Nat}

theorem longest_le_iff {least bound : Nat} {texts : List String} :
    longest least texts ≤ bound ↔
      least ≤ bound ∧ ∀ text ∈ texts, text.toList.length ≤ bound := by
  induction texts generalizing least with
  | nil => simp [longest]
  | cons text texts ih =>
      have later : longest least (text :: texts) =
          longest (max least text.toList.length) texts := rfl
      rw [later, ih, Nat.max_le, List.forall_mem_cons, and_assoc]

theorem least_le_longest (least : Nat) (texts : List String) : least ≤ longest least texts :=
  (longest_le_iff.mp (Nat.le_refl _)).1

theorem le_longest {text : String} {texts : List String} (member : text ∈ texts) (least : Nat) :
    text.toList.length ≤ longest least texts :=
  (longest_le_iff.mp (Nat.le_refl _)).2 text member

theorem Cell.fills_padBefore {text : String} (narrow : text.toList.length < width) :
    (plain text).Fills width (padBefore width text) := by
  refine ⟨by simp [padBefore]; omega, width - text.toList.length - 1, ?_⟩
  have blanks : width - text.toList.length = width - text.toList.length - 1 + 1 := by omega
  rw [padBefore, blanks, List.replicate_succ]
  simp [fill, plain]

/-- A column sets what a field says. -/
def Column.Sets (column : Column) (results : List RunResult) (field : Field) : Prop :=
  ∃ width, field.heading.Fills width column.header ∧
    ∀ result ∈ results, (field.cell result).Fills width (column.cell result)

theorem sets_rightColumn {header : String} {cell : RunResult → String}
    (heading : header.toList.length < width)
    (narrow : ∀ result ∈ results, (cell result).toList.length < width) :
    (rightColumn header width cell).Sets results
      ⟨.plain header, fun result => .plain (cell result)⟩ :=
  ⟨width, Cell.fills_padBefore heading,
    fun result member => Cell.fills_padBefore (narrow result member)⟩

theorem sets_fittedColumn (header : String) (cell : RunResult → String) :
    (fittedColumn results header cell).Sets results
      ⟨.plain header, fun result => .plain (cell result)⟩ := by
  apply sets_rightColumn
  · have := least_le_longest header.toList.length (results.map cell)
    simp only [padding]
    omega
  · intro result member
    have := le_longest (List.mem_map_of_mem (f := cell) member) header.toList.length
    simp only [padding]
    omega

theorem sets_parameterColumn (parameter : String) :
    (parameterColumn results parameter).Sets results
      ⟨.plain ("(" ++ parameter ++ ")"),
        fun result => .plain ((result.parameters.get? parameter).getD "N/A")⟩ := by
  have least := least_le_longest (parameter.toList.length + 2)
    (results.filterMap fun result => result.parameters.get? parameter)
  apply sets_rightColumn
  · simp only [String.toList_append, List.length_append, padding]
    simp only [String.reduceToList, List.length_singleton]
    omega
  · intro result member
    cases value : result.parameters.get? parameter with
    | none =>
        simp only [Option.getD_none, String.reduceToList, List.length_cons, List.length_nil,
          padding]
        omega
    | some text =>
        have inValues : text ∈ results.filterMap fun result =>
            result.parameters.get? parameter := List.mem_filterMap.mpr ⟨result, member, value⟩
        have := le_longest inValues (parameter.toList.length + 2)
        simp only [Option.getD_some, padding]
        omega

/-- A single blank fills its column like nothing at all. -/
theorem padBefore_blank (wide : 0 < width) : padBefore width " " = padBefore width "" := by
  have blanks : width = width - 1 + 1 := by omega
  simp only [padBefore, String.reduceToList, List.length_singleton, List.length_nil,
    List.append_nil, Nat.sub_zero]
  rw [blanks, List.replicate_succ']
  rfl

theorem sets_countColumn :
    (countColumn results).Sets results
      ⟨.plain "Cnt", fun result =>
        .plain (if 1 < result.samples.length then toString result.samples.length else "")⟩ := by
  have least := least_le_longest "Cnt".toList.length (results.map countText)
  refine ⟨longest "Cnt".toList.length (results.map countText) + padding,
    Cell.fills_padBefore (by simp only [padding]; omega), ?_⟩
  intro result member
  have own := le_longest (List.mem_map_of_mem (f := countText) member) "Cnt".toList.length
  simp only [countColumn, rightColumn]
  split
  · exact Cell.fills_padBefore (by simp only [padding, countText] at own ⊢; omega)
  · rw [padBefore_blank (by simp only [padding]; omega)]
    exact Cell.fills_padBefore (by simp [padding])

theorem padBefore_add_two {text : String} (narrow : text.toList.length ≤ width) :
    padBefore (width + 2) text = ' ' :: ' ' :: padBefore width text := by
  have blanks : width + 2 - text.toList.length = width - text.toList.length + 1 + 1 := by omega
  rw [padBefore, blanks, List.replicate_succ, List.replicate_succ]
  rfl

theorem sets_errorColumn :
    (errorColumn results).Sets results
      ⟨.plain "Error", fun result =>
        if Amount.isNaNOrZero result.error then .plain ""
        else .signed (Amount.fixed result.error 3 false)⟩ := by
  have least := least_le_longest "Error".toList.length (results.map errorText)
  have wide : longest "Error".toList.length (results.map errorText) + padding - 1 =
      longest "Error".toList.length (results.map errorText) + 1 := rfl
  have blank {text : String}
      (narrow : text.toList.length ≤ longest "Error".toList.length (results.map errorText)) :
      (Cell.plain text).Fills (longest "Error".toList.length (results.map errorText) + 3)
        (' ' :: ' ' :: padBefore
          (longest "Error".toList.length (results.map errorText) + 1) text) := by
    rw [← padBefore_add_two (by omega)]
    exact Cell.fills_padBefore (by omega)
  refine ⟨longest "Error".toList.length (results.map errorText) + 3, blank least, ?_⟩
  intro result member
  have own := le_longest (List.mem_map_of_mem (f := errorText) member) "Error".toList.length
  simp only [errorColumn, wide]
  split
  · exact blank (by simp)
  · refine ⟨?_, _, rfl⟩
    simp only [padBefore, List.length_cons, List.length_append, List.length_replicate]
    omega

theorem forall₂_sets :
    List.Forall₂ (fun column field => column.Sets results field)
      ((RunResult.parameterNames results).map (parameterColumn results) ++
        [fittedColumn results "Mode" fun result => result.settings.mode.short,
          countColumn results, fittedColumn results "Score" scoreText, errorColumn results,
          fittedColumn results "Units" fun result => result.settings.unitText])
      (fields results) := by
  rw [Csv.parameterNames_eq]
  apply List.rel_append
  · rw [List.forall₂_map_left_iff, List.forall₂_map_right_iff, List.forall₂_same]
    intro parameter _
    exact sets_parameterColumn parameter
  · exact .cons (sets_fittedColumn _ _) (.cons sets_countColumn (.cons (sets_fittedColumn _ _)
      (.cons sets_errorColumn (.cons (sets_fittedColumn _ _) .nil))))

theorem exists_stops {columns : List Column} {fields : List Field}
    (sets : List.Forall₂ (fun column field => column.Sets results field) columns fields)
    (start : Nat) :
    ∃ stops, SetsFrom start stops (fields.map Field.heading) (columns.flatMap Column.header) ∧
      ∀ result ∈ results, SetsFrom start stops (fields.map fun field => field.cell result)
        (columns.flatMap fun column => column.cell result) := by
  induction sets generalizing start with
  | nil => exact ⟨[], .nil start, fun _ _ => .nil start⟩
  | cons first others ih =>
      rcases first with ⟨width, heading, cell⟩
      rcases ih (start + width) with ⟨stops, headings, cells⟩
      exact ⟨(start + width) :: stops, .cons heading headings,
        fun result member => .cons (cell result member) (cells result member)⟩

theorem SetsFrom.length {start : Nat} {stops : List Nat} {cells : List Cell} {line : List Char}
    (sets : SetsFrom start stops cells line) : start + line.length = stops.getLastD start := by
  induction sets with
  | nil start => simp
  | cons fills others ih =>
      rw [List.length_append, fills.1, ← Nat.add_assoc, ih, List.getLastD_cons]

theorem SetsFrom.unbroken {start : Nat} {stops : List Nat} {cells : List Cell} {line : List Char}
    (sets : SetsFrom start stops cells line) (whole : ∀ cell ∈ cells, cell.IsUnbroken) :
    '\n' ∉ line := by
  induction sets with
  | nil start => simp
  | cons fills others ih =>
      rw [List.forall_mem_cons] at whole
      rcases fills with ⟨-, blanks, rfl⟩
      simp [Cell.fill, whole.1.1, whole.1.2, ih whole.2]

theorem Row.IsSet.length {row : Row} {nameStop : Nat} {stops : List Nat} {line : List Char}
    (isSet : row.IsSet nameStop stops line) : line.length = stops.getLastD nameStop := by
  rcases isSet with ⟨blanks, rest, rfl, atStop, sets⟩
  rw [List.length_append, List.length_append, List.length_replicate, atStop, sets.length]

theorem Row.IsSet.unbroken {row : Row} {nameStop : Nat} {stops : List Nat} {line : List Char}
    (isSet : row.IsSet nameStop stops line) (name : Text.IsUnbroken row.name)
    (cells : ∀ cell ∈ row.cells, cell.IsUnbroken) : '\n' ∉ line := by
  rcases isSet with ⟨blanks, rest, rfl, -, sets⟩
  rw [Text.IsUnbroken] at name
  simp [name, sets.unbroken cells]

/-- The header line and the lines of the results are set with the same stops. -/
theorem exists_isSet (results : List RunResult) :
    ∃ nameStop stops,
      (headingRow results).IsSet nameStop stops (headerLine (columns results)) ∧
      ∀ result ∈ results,
        (row results result).IsSet nameStop stops (line (columns results) result) := by
  have padded {width : Nat} {text : String} (narrow : text.toList.length ≤ width) :
      text.toList.length + (width - text.toList.length) = width := by omega
  let name := fun result : RunResult =>
    (SharedPackage.ofNames (results.map RunResult.benchmark)).denseName result.benchmark
  rcases exists_stops (@forall₂_sets results)
    (longest "Benchmark".toList.length (results.map name)) with ⟨stops, headings, cells⟩
  refine ⟨longest "Benchmark".toList.length (results.map name), stops, ?_, ?_⟩
  · exact ⟨_, _, rfl, padded (least_le_longest _ _), headings⟩
  · intro result member
    exact ⟨_, _, rfl, padded (le_longest (List.mem_map_of_mem (f := name) member) _),
      cells result member⟩

end Microbench.Report.Table

namespace Microbench

open Text (IsUnbroken isUnbroken_append)

/-- No name or value in a result breaks a line. -/
structure RunResult.IsUnbroken (result : RunResult) : Prop where
  benchmark : Text.IsUnbroken result.benchmark
  parameters : ∀ pair ∈ result.parameters.pairs, Text.IsUnbroken pair.1 ∧ Text.IsUnbroken pair.2

theorem Amount.isUnbroken_fixed (value : Float) (places : Nat) :
    IsUnbroken (fixed value places false) := by
  intro feed
  rw [fixed, String.toList_ofList] at feed
  rcases Binary64.isPlainChar_of_mem_fixed feed with digit | other
  · cases digit
  · simp at other

theorem isUnbroken_toString (number : Nat) : IsUnbroken (toString number) := by
  intro feed
  rw [Decimal.toList_toString] at feed
  cases Decimal.isDigit_of_mem_digits feed

theorem Mode.isUnbroken_unitText (mode : Mode) (unit : TimeUnit) :
    IsUnbroken (mode.unitText unit) := by
  cases mode <;> cases unit <;> decide

namespace Report.Table

variable {results : List RunResult}

theorem Cell.isUnbroken_plain {text : String} (unbroken : Text.IsUnbroken text) :
    (plain text).IsUnbroken :=
  ⟨by simp [plain], unbroken⟩

theorem isUnbroken_value {result : RunResult} (unbroken : result.IsUnbroken) (parameter : String) :
    Text.IsUnbroken ((result.parameters.get? parameter).getD "N/A") := by
  cases value : result.parameters.get? parameter with
  | none => decide
  | some text => exact (unbroken.parameters _ (Entries.mem_of_find? value)).2

theorem isUnbroken_parameterName (unbroken : ∀ result ∈ results, result.IsUnbroken)
    {parameter : String} (member : parameter ∈ (results.flatMap fun result =>
      Entries.names result.parameters.pairs).eraseDups) :
    Text.IsUnbroken parameter := by
  rw [List.mem_eraseDups, List.mem_flatMap] at member
  rcases member with ⟨result, inResults, inNames⟩
  rcases List.mem_map.mp inNames with ⟨pair, inPairs, rfl⟩
  exact ((unbroken result inResults).parameters pair inPairs).1

/-- No cell of the table breaks a line. -/
theorem isUnbroken_fields (unbroken : ∀ result ∈ results, result.IsUnbroken) :
    ∀ field ∈ fields results, field.heading.IsUnbroken ∧
      ∀ result ∈ results, (field.cell result).IsUnbroken := by
  intro field member
  rw [fields, List.mem_append] at member
  rcases member with parameter | fixed
  · rcases List.mem_map.mp parameter with ⟨name, inNames, rfl⟩
    refine ⟨Cell.isUnbroken_plain ?_, fun result inResults =>
      Cell.isUnbroken_plain (isUnbroken_value (unbroken result inResults) name)⟩
    rw [isUnbroken_append, isUnbroken_append]
    exact ⟨⟨by decide, isUnbroken_parameterName unbroken inNames⟩, by decide⟩
  · simp only [List.mem_cons, List.not_mem_nil, or_false] at fixed
    rcases fixed with rfl | rfl | rfl | rfl | rfl
    · refine ⟨Cell.isUnbroken_plain (by decide), fun result _ => Cell.isUnbroken_plain ?_⟩
      cases result.settings.mode <;> decide
    · refine ⟨Cell.isUnbroken_plain (by decide), fun result _ => Cell.isUnbroken_plain ?_⟩
      split
      · exact isUnbroken_toString _
      · decide
    · exact ⟨Cell.isUnbroken_plain (by decide),
        fun result _ => Cell.isUnbroken_plain (Amount.isUnbroken_fixed _ _)⟩
    · refine ⟨Cell.isUnbroken_plain (by decide), fun result _ => ?_⟩
      dsimp only
      split
      · exact Cell.isUnbroken_plain (by decide)
      · exact ⟨by simp [Cell.signed], Amount.isUnbroken_fixed _ _⟩
    · exact ⟨Cell.isUnbroken_plain (by decide),
        fun result _ => Cell.isUnbroken_plain (Mode.isUnbroken_unitText _ _)⟩

theorem isUnbroken_denseName {names : List String} {name : String} (member : name ∈ names)
    (unbroken : Text.IsUnbroken name) :
    Text.IsUnbroken ((SharedPackage.ofNames names).denseName name) := by
  intro feed
  rcases SharedPackage.mem_of_mem_denseName (SharedPackage.segments_prefix_ofName member) feed with
    inName | isDot
  · exact unbroken inName
  · cases isDot

/-- A text report of results whose names and values have no line feeds in them is a header line and
a line for each result, all of one length. In every line the cells stop where the columns do. -/
theorem render_aligned (unbroken : ∀ result ∈ results, result.IsUnbroken) :
    ∃ header lines nameStop stops,
      Text.splitAll '\n' (ReportFormat.text.render results).toList = header :: lines ++ [[]] ∧
      (headingRow results).IsSet nameStop stops header ∧
      List.Forall₂ (fun result line => (row results result).IsSet nameStop stops line)
        results lines ∧
      ∃ width, ∀ line ∈ header :: lines, line.length = width := by
  rcases exists_isSet results with ⟨nameStop, stops, heading, rows⟩
  have fieldsUnbroken := isUnbroken_fields unbroken
  have headerUnbroken : '\n' ∉ headerLine (columns results) := by
    have name : Text.IsUnbroken "Benchmark" := by decide
    apply heading.unbroken name
    intro cell member
    rcases List.mem_map.mp member with ⟨field, inFields, rfl⟩
    exact (fieldsUnbroken field inFields).1
  have lineUnbroken : ∀ result ∈ results, '\n' ∉ line (columns results) result := by
    intro result inResults
    apply (rows result inResults).unbroken
    · exact isUnbroken_denseName (List.mem_map_of_mem inResults)
        (unbroken result inResults).benchmark
    · intro cell member
      rcases List.mem_map.mp member with ⟨field, inFields, rfl⟩
      exact (fieldsUnbroken field inFields).2 result inResults
  refine ⟨headerLine (columns results), results.map (line (columns results)), nameStop, stops, ?_,
    heading, ?_, stops.getLastD nameStop, ?_⟩
  · change Text.splitAll '\n' (render results).toList = _
    rw [render, String.toList_ofList]
    apply Text.splitAll_flatMap
    simpa using ⟨headerUnbroken, lineUnbroken⟩
  · rw [List.forall₂_map_right_iff, List.forall₂_same]
    exact rows
  · rw [List.forall_mem_cons, List.forall_mem_map]
    exact ⟨heading.length, fun result inResults => (rows result inResults).length⟩

/-- A result with a parameter and one without. -/
def Demonstration.sizedResults : List RunResult :=
  [.ofSamples "pkg.A.run" ⟨[("size", "1000")]⟩ .standard [.ofFloat 1.5],
    .ofSamples "pkg.A.other" .empty .standard [.ofFloat 2, .ofFloat 3]]

theorem Demonstration.render_aligned_sized :
    (∀ result ∈ sizedResults, result.IsUnbroken) ∧
    ∃ header line other,
      Text.splitAll '\n' (ReportFormat.text.render sizedResults).toList =
        [header, line, other, []] ∧
      header.length = line.length ∧ line.length = other.length := by
  have unbroken : ∀ result ∈ sizedResults, result.IsUnbroken := by
    simp only [sizedResults, List.forall_mem_cons]
    refine ⟨⟨by decide, ?_⟩, ⟨by decide, ?_⟩, by simp⟩
    · simp only [RunResult.ofSamples, List.forall_mem_singleton]
      decide
    · simp [RunResult.ofSamples, ParameterSet.empty]
  rcases render_aligned unbroken with
    ⟨header, lines, nameStop, stops, parts, -, rows, width, widths⟩
  refine ⟨unbroken, ?_⟩
  rcases rows with _ | ⟨-, _ | ⟨-, none⟩⟩
  cases none
  rename_i line other
  refine ⟨header, line, other, parts, ?_, ?_⟩
  · rw [widths header (by simp), widths line (by simp)]
  · rw [widths line (by simp), widths other (by simp)]

end Report.Table

end Microbench
