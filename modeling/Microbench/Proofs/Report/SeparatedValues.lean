import Mathlib.Data.List.Forall2
import Microbench.Proofs.Binary64.Characters
import Microbench.Proofs.Text.Entries
import Microbench.Report.Format

/-!
# Separated values read back

A reader for files of separated values. A field stands bare if it has no quote, delimiter, carriage
return or line feed in it; any field may stand in quotes, with its own quotes written twice. Records
end with a carriage return and a line feed, which the last one may lack. The reader refuses
everything else, and reads every file that is written in this way.

Reports of separated values are such files, whatever names and values are in them: the reader finds
a row for each result under a row of headings, and the values of a parameter in one column.
-/

namespace Microbench.Report.Csv

/-- Where a reader stands. -/
inductive Place where
  /-- At the beginning of a field. -/
  | fresh
  /-- In a field that stands bare. -/
  | bare
  /-- Between the quotes of a field. -/
  | quoted
  /-- After a quote that ends the field, unless another one follows. -/
  | closed
  /-- After a carriage return that ends the record. -/
  | returned
deriving DecidableEq

/-- What is left to read from a place in a field on. -/
structure Remainder where
  field : List Char
  /-- The later fields of the record. -/
  fields : List (List Char)
  /-- The later records. -/
  records : List (List (List Char))

namespace Remainder

def nothing : Remainder := ⟨[], [], []⟩

def push (char : Char) (remainder : Remainder) : Remainder :=
  { remainder with field := char :: remainder.field }

/-- All records, the one of the field included. -/
def table (remainder : Remainder) : List (List (List Char)) :=
  (remainder.field :: remainder.fields) :: remainder.records

/-- A field ends before what is left. -/
def endField (remainder : Remainder) : Remainder :=
  ⟨[], remainder.field :: remainder.fields, remainder.records⟩

/-- A record ends before what is left. -/
def endRecord (remainder : Remainder) : Remainder := ⟨[], [], remainder.table⟩

/-- More of the field stands before what is left. -/
def extend (text : List Char) (remainder : Remainder) : Remainder :=
  { remainder with field := text ++ remainder.field }

@[simp]
theorem extend_nil : extend [] = id := rfl

theorem extend_cons (char : Char) (text : List Char) :
    extend (char :: text) = push char ∘ extend text :=
  rfl

end Remainder

/-- Reads on from a place in a field. -/
def readFrom (delimiter : Char) (place : Place) : List Char → Option Remainder
  | [] => if place = .quoted ∨ place = .returned then none else some .nothing
  | char :: text =>
    match place with
    | .quoted =>
      if char = '"' then readFrom delimiter .closed text
      else (readFrom delimiter .quoted text).map (.push char)
    | .returned =>
      if char ≠ '\n' then none
      else if text.isEmpty then some .nothing
      else (readFrom delimiter .fresh text).map .endRecord
    | place =>
      if char = delimiter then (readFrom delimiter .fresh text).map .endField
      else if char = '\r' then readFrom delimiter .returned text
      else if char = '"' then
        if place = .fresh then readFrom delimiter .quoted text
        else if place = .closed then (readFrom delimiter .quoted text).map (.push char)
        else none
      else if char = '\n' ∨ place = .closed then none
      else (readFrom delimiter .bare text).map (.push char)

/-- The records of a file. -/
def records? (delimiter : Char) (text : List Char) : Option (List (List (List Char))) :=
  if text.isEmpty then some [] else (readFrom delimiter .fresh text).map Remainder.table

/-- The records of a file as texts. -/
def read? (delimiter : Char) (text : String) : Option (List (List String)) :=
  (records? delimiter text.toList).map fun records =>
    records.map fun record => record.map String.ofList

/-- The ways in which a value may be written. -/
inductive Writes (delimiter : Char) (value : List Char) : List Char → Prop
  | bare (plain : ∀ char ∈ value,
      char ≠ '"' ∧ char ≠ delimiter ∧ char ≠ '\r' ∧ char ≠ '\n') : Writes delimiter value value
  | quoted : Writes delimiter value (quote (String.ofList value))

variable {delimiter : Char}

theorem readFrom_bare {value : List Char}
    (plain : ∀ char ∈ value, char ≠ '"' ∧ char ≠ delimiter ∧ char ≠ '\r' ∧ char ≠ '\n')
    {place : Place} (outside : place = .fresh ∨ place = .bare) :
    ∃ later : Place, later ≠ .quoted ∧ later ≠ .returned ∧ ∀ rest,
      readFrom delimiter place (value ++ rest) =
        (readFrom delimiter later rest).map (.extend value) := by
  induction value generalizing place with
  | nil =>
      refine ⟨place, ?_, ?_, ?_⟩
      · rcases outside with rfl | rfl <;> simp
      · rcases outside with rfl | rfl <;> simp
      · intro rest
        simp
  | cons char value ih =>
      rw [List.forall_mem_cons] at plain
      rcases plain with ⟨⟨noQuote, noDelimiter, noReturn, noFeed⟩, others⟩
      rcases ih others (Or.inr rfl) with ⟨later, unquoted, unreturned, read⟩
      refine ⟨later, unquoted, unreturned, ?_⟩
      intro rest
      have next : readFrom delimiter place (char :: (value ++ rest)) =
          (readFrom delimiter .bare (value ++ rest)).map (.push char) := by
        rcases outside with rfl | rfl <;>
          simp [readFrom, noQuote, noDelimiter, noReturn, noFeed]
      rw [List.cons_append, next, read, Option.map_map, Remainder.extend_cons]

section Delimited

variable (noQuote : delimiter ≠ '"')

include noQuote

theorem readFrom_quoted (value rest : List Char) :
    readFrom delimiter .quoted
        (value.flatMap (fun char => if char = '"' then ['"', '"'] else [char]) ++ '"' :: rest) =
      (readFrom delimiter .closed rest).map (.extend value) := by
  induction value with
  | nil => simp [readFrom]
  | cons char value ih =>
      rw [Remainder.extend_cons, ← Option.map_map, ← ih, List.flatMap_cons]
      by_cases isQuote : char = '"'
      · subst isQuote
        simp [readFrom, noQuote.symm]
      · simp [readFrom, isQuote]

/-- Where a field ends, in whatever way it is written, its value has been read. -/
theorem readFrom_written {value field : List Char} (written : Writes delimiter value field) :
    ∃ later : Place, later ≠ .quoted ∧ later ≠ .returned ∧ ∀ rest,
      readFrom delimiter .fresh (field ++ rest) =
        (readFrom delimiter later rest).map (.extend value) := by
  cases written with
  | bare plain => exact readFrom_bare plain (Or.inl rfl)
  | quoted =>
      refine ⟨.closed, by simp, by simp, ?_⟩
      intro rest
      have opened (text : List Char) :
          readFrom delimiter .fresh ('"' :: text) = readFrom delimiter .quoted text := by
        simp [readFrom, noQuote.symm]
      rw [quote, List.append_assoc, List.cons_append, opened, List.singleton_append,
        String.toList_ofList, readFrom_quoted noQuote]

end Delimited

theorem readFrom_delimiter {place : Place} (unquoted : place ≠ .quoted)
    (unreturned : place ≠ .returned) (rest : List Char) :
    readFrom delimiter place (delimiter :: rest) =
      (readFrom delimiter .fresh rest).map .endField := by
  cases place with
  | quoted => exact absurd rfl unquoted
  | returned => exact absurd rfl unreturned
  | _ => simp [readFrom]

theorem readFrom_return (noReturn : delimiter ≠ '\r') {place : Place} (unquoted : place ≠ .quoted)
    (unreturned : place ≠ .returned) (rest : List Char) :
    readFrom delimiter place ('\r' :: '\n' :: rest) =
      (records? delimiter rest).map fun records => ⟨[], [], records⟩ := by
  have ended : readFrom delimiter .returned ('\n' :: rest) =
      (records? delimiter rest).map fun records => ⟨[], [], records⟩ := by
    rw [records?]
    cases rest with
    | nil => rfl
    | cons char rest => simp [readFrom, Option.map_map]; rfl
  rw [← ended]
  cases place with
  | quoted => exact absurd rfl unquoted
  | returned => exact absurd rfl unreturned
  | _ => simp [readFrom, noReturn.symm]

theorem readFrom_record (noQuote : delimiter ≠ '"') (noReturn : delimiter ≠ '\r')
    {value field : List Char} {values fields : List (List Char)}
    (written : Writes delimiter value field)
    (others : List.Forall₂ (Writes delimiter) values fields) (rest : List Char) :
    readFrom delimiter .fresh (record delimiter (field :: fields) ++ rest) =
      (records? delimiter rest).map fun records => ⟨value, values, records⟩ := by
  induction others generalizing value field with
  | nil =>
      rcases readFrom_written noQuote written with ⟨later, unquoted, unreturned, read⟩
      rw [record, List.intercalate_singleton, List.append_assoc, read]
      change (readFrom delimiter later ('\r' :: '\n' :: rest)).map _ = _
      rw [readFrom_return noReturn unquoted unreturned, Option.map_map]
      simp [Function.comp_def, Remainder.extend]
  | cons next others ih =>
      -- Up to the delimiter it is the first field; then the rest is a record of its own.
      rename_i other otherField values fields
      rcases readFrom_written noQuote written with ⟨later, unquoted, unreturned, read⟩
      have shape : record delimiter (field :: otherField :: fields) ++ rest =
          field ++ (delimiter :: (record delimiter (otherField :: fields) ++ rest)) := by
        rw [record, record, List.intercalate_cons_cons]
        simp
      rw [shape, read, readFrom_delimiter unquoted unreturned, ih next, Option.map_map,
        Option.map_map]
      simp [Function.comp_def, Remainder.extend, Remainder.endField]

/-- Every file that is written field by field reads back. -/
theorem records?_written (noQuote : delimiter ≠ '"') (noReturn : delimiter ≠ '\r')
    {values rows : List (List (List Char))}
    (written : List.Forall₂ (List.Forall₂ (Writes delimiter)) values rows)
    (solid : ∀ row ∈ rows, row ≠ []) :
    records? delimiter (rows.flatMap (record delimiter)) = some values := by
  induction written with
  | nil => rfl
  | cons row others ih =>
      rename_i first fields values rows
      rw [List.forall_mem_cons] at solid
      cases row with
      | nil => exact absurd rfl solid.1
      | cons own later =>
          rename_i value field ownValues ownFields
          have open_ : (record delimiter (field :: ownFields) ++
              rows.flatMap (record delimiter)).isEmpty = false := by simp [record]
          rw [records?, List.flatMap_cons, open_, readFrom_record noQuote noReturn own later,
            ih solid.2]
          rfl

/-- A quoted delimiter, quotes and a line end in a field, and a last record without an end. -/
example : read? ';' "a;\"x;\"\"y\r\n\"\r\nb;" = some [["a", "x;\"y\r\n"], ["b", ""]] := by
  decide +kernel

theorem parameterNames_eq (results : List RunResult) :
    RunResult.parameterNames results =
      (results.flatMap fun result => Entries.names result.parameters.pairs).eraseDups := by
  rw [RunResult.parameterNames]
  generalize (results.flatMap fun result => Entries.names result.parameters.pairs) = names
  induction names using List.reverseRecOn with
  | nil => rfl
  | append_singleton names name ih =>
      rw [List.foldl_append, List.foldl_cons, List.foldl_nil, ih, Entries.eraseDups_concat]
      simp only [List.mem_eraseDups]

/-- What a report says of a result. -/
def cells (parameters : List String) (result : RunResult) : List String :=
  [result.benchmark, result.settings.mode.short, "1", toString result.samples.length,
      Amount.fixed result.score 6 false, Amount.fixed result.error 6 false,
      result.settings.unitText] ++
    parameters.map fun name => (result.parameters.get? name).getD ""

/-- What a report says of results: a row of headings, and a row for each result. -/
def sheet (results : List RunResult) : List (List String) :=
  let parameters := (results.flatMap fun result =>
    result.parameters.pairs.map Prod.fst).eraseDups
  (["Benchmark", "Mode", "Threads", "Samples", "Score", "Score Error (99.9%)", "Unit"] ++
      parameters.map fun name => "Param: " ++ name) ::
    results.map (cells parameters)

section Rows

variable (separates : delimiter = ',' ∨ delimiter = ';')

include separates

theorem writes_number {value : List Char} (plain : ∀ char ∈ value, Binary64.IsPlainChar char) :
    Writes delimiter value value := by
  apply Writes.bare
  intro char member
  have other (mark : Char) (noDigit : mark.isDigit = false)
      (noSign : mark ∉ ['-', '.', 'i', 'n', 'f', 'N', 'a']) : char ≠ mark := by
    rintro rfl
    rcases plain char member with digit | sign
    · rw [noDigit] at digit
      cases digit
    · exact noSign sign
  refine ⟨other _ rfl (by simp), ?_, other _ rfl (by simp), other _ rfl (by simp)⟩
  rcases separates with rfl | rfl
  · exact other _ rfl (by simp)
  · exact other _ rfl (by simp)

omit separates in
theorem writes_quote (text : String) : Writes delimiter text.toList (quote text) := by
  have written : Writes delimiter text.toList (quote (String.ofList text.toList)) := .quoted
  rwa [String.ofList_toList] at written

omit separates in
theorem writes_quotes (texts : List String) :
    List.Forall₂ (Writes delimiter) (texts.map String.toList) (texts.map quote) := by
  rw [List.forall₂_map_left_iff, List.forall₂_map_right_iff, List.forall₂_same]
  intro text _
  exact writes_quote text

theorem writes_row (parameters : List String) (result : RunResult) :
    List.Forall₂ (Writes delimiter) ((cells parameters result).map String.toList)
      (row parameters result) := by
  have one : Writes delimiter "1".toList ['1'] := by
    apply writes_number separates
    simp [Binary64.IsPlainChar]
  have count (number : Nat) :
      Writes delimiter (toString number).toList (Decimal.digits number) := by
    rw [Decimal.toList_toString]
    apply writes_number separates
    intro char member
    exact Or.inl (Decimal.isDigit_of_mem_digits member)
  have amount (value : Float) : Writes delimiter (Amount.fixed value 6 false).toList
      (Amount.fixed value places false).toList := by
    apply writes_number separates
    intro char member
    rw [Amount.fixed, String.toList_ofList] at member
    exact Binary64.isPlainChar_of_mem_fixed member
  have values := @writes_quotes delimiter
    (parameters.map fun name => (result.parameters.get? name).getD "")
  rw [List.map_map (f := fun name => (result.parameters.get? name).getD "") (g := quote)] at values
  rw [row, cells, List.map_append]
  apply List.rel_append
  · exact .cons (writes_quote _) (.cons (writes_quote _) (.cons one (.cons (count _)
      (.cons (amount _) (.cons (amount _) (.cons (writes_quote _) .nil))))))
  · exact values

theorem read?_render (results : List RunResult) :
    read? delimiter (render delimiter results) = some (sheet results) := by
  have noQuote : delimiter ≠ '"' := by rcases separates with rfl | rfl <;> simp
  have noReturn : delimiter ≠ '\r' := by rcases separates with rfl | rfl <;> simp
  have written : List.Forall₂ (List.Forall₂ (Writes delimiter))
      ((sheet results).map fun cells => cells.map String.toList)
      (header (RunResult.parameterNames results) ::
        results.map (row (RunResult.parameterNames results))) := by
    rw [parameterNames_eq, sheet, List.map_cons]
    apply List.Forall₂.cons
    · exact writes_quotes _
    · rw [List.map_map, List.forall₂_map_left_iff, List.forall₂_map_right_iff, List.forall₂_same]
      intro result _
      exact writes_row separates _ result
  have solid : ∀ record ∈ header (RunResult.parameterNames results) ::
      results.map (row (RunResult.parameterNames results)), record ≠ [] := by
    rw [List.forall_mem_cons]
    refine ⟨by simp [header, fixedColumns], ?_⟩
    intro record member
    rcases List.mem_map.mp member with ⟨result, -, rfl⟩
    simp [row]
  rw [read?, render, String.toList_ofList, records?_written noQuote noReturn written solid]
  simp [List.map_map, Function.comp_def]

end Rows

/-- With either delimiter, reports read back: there is a row of headings and a row for each result,
all of one length. -/
theorem render_reads_back (results : List RunResult) :
    read? ',' (ReportFormat.csv.render results) = some (sheet results) ∧
      read? ';' (ReportFormat.scsv.render results) = some (sheet results) ∧
      (sheet results).map List.length =
        List.replicate (results.length + 1) (7 + (RunResult.parameterNames results).length) := by
  refine ⟨read?_render (Or.inl rfl) results, read?_render (Or.inr rfl) results, ?_⟩
  have rows (parameters : List String) : (results.map (cells parameters)).map List.length =
      List.replicate results.length (7 + parameters.length) := by
    rw [List.map_map, List.eq_replicate_iff]
    refine ⟨by simp, ?_⟩
    intro length member
    rcases List.mem_map.mp member with ⟨result, -, rfl⟩
    simp [cells]
    omega
  rw [parameterNames_eq, sheet, List.map_cons, rows, List.replicate_succ]
  simp [Entries.names]
  omega

end Microbench.Report.Csv
