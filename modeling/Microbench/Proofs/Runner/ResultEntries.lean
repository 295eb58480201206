import Microbench.Proofs.Binary64.NumberTexts
import Microbench.Proofs.Runner.Steps

/-!
# Files of results read back

A file of results has a line for each run: the path of its descriptor and its samples. Whatever the
paths are, as long as they stay in their lines, the paths and the samples that were written are
read, each sample bit for bit and each with the run that it belongs to.

A text of samples is refused only if there is nothing in it or some piece between commas is not the
text of a number. Otherwise each piece is one sample.
-/

namespace Microbench

/-- What a line in a file of results tells of a run. -/
structure ResultEntry where
  runFile : String
  samples : List Binary64
  unbroken : '\n' ∉ runFile.toList
  solid : samples ≠ []
  numbers : ∀ sample ∈ samples, sample.isNaN = false

namespace ResultEntry

def line (entry : ResultEntry) : String := entry.runFile ++ ": " ++ Samples.text entry.samples

theorem read_samples (entry : ResultEntry) :
    Samples.read (Samples.text entry.samples).toList = .ok entry.samples := by
  apply Samples.read_text entry.solid
  intro sample member
  exact Binary64.read?_plain (entry.numbers sample member)

theorem isLine_line (entry : ResultEntry) : Text.IsLine entry.line.toList :=
  Samples.isLine_result entry.unbroken entry.solid

theorem isBlank_line (entry : ResultEntry) : Text.isBlank entry.line.toList = false := by
  rw [Text.isBlank, List.all_eq_false]
  exact ⟨':', by simp [line], by decide⟩

end ResultEntry

/-- A text that has the lines of entries. The last of them need not end with a line feed. -/
def AreLinesOf (entries : List ResultEntry) (text : String) : Prop :=
  text = streamText (entries.map ResultEntry.line) ∨
    text = "\n".intercalate (entries.map ResultEntry.line)

theorem resultLines_of_areLinesOf {entries : List ResultEntry} {text : String}
    (areLinesOf : AreLinesOf entries text) :
    resultLines text = entries.map fun entry => entry.line.toList := by
  have areLines : ∀ line ∈ entries.map ResultEntry.line, Text.IsLine line.toList := by
    intro line member
    rcases List.mem_map.mp member with ⟨entry, -, rfl⟩
    exact entry.isLine_line
  have solid : ∀ line ∈ entries.map ResultEntry.line, Text.isBlank line.toList = false := by
    intro line member
    rcases List.mem_map.mp member with ⟨entry, -, rfl⟩
    exact entry.isBlank_line
  rcases areLinesOf with rfl | rfl
  · rw [resultLines_streamText areLines solid, List.map_map]
    rfl
  · have lines : Text.lines ("\n".intercalate (entries.map ResultEntry.line)).toList =
        (entries.map ResultEntry.line).map String.toList := by
      rw [String.toList_intercalate]
      apply Text.lines_intercalate
      · simpa using areLines
      · intro line member empty
        rcases List.mem_map.mp member with ⟨text, inLines, rfl⟩
        have solid := solid text inLines
        rw [empty] at solid
        cases solid
    rw [resultLines, lines, List.filter_eq_self.mpr, List.map_map]
    · rfl
    · intro line member
      rcases List.mem_map.mp member with ⟨text, inLines, rfl⟩
      rw [solid text inLines]
      rfl

namespace ResultLine

/-- The path and the samples in a line. -/
def readAll (line : List Char) : Except FileFault (String × List Binary64) := do
  let line ← read line
  let samples ← Samples.read line.samples
  return (line.path, samples)

theorem readAll_line (entry : ResultEntry) :
    readAll entry.line.toList = .ok (entry.runFile, entry.samples) := by
  rw [readAll, ResultEntry.line, read_append]
  simp only [bind, Except.bind, entry.read_samples]
  rfl

end ResultLine

namespace Samples

/-- Pieces are read exactly if each of them is, as one sample each. -/
theorem readPieces_eq_ok_iff {pieces : List (List Char)} {samples : List Binary64} :
    readPieces pieces = .ok samples ↔
      pieces.map (fun piece => Binary64.read? (Text.trim piece)) = samples.map some := by
  induction pieces generalizing samples with
  | nil => cases samples <;> simp [readPieces]
  | cons piece pieces ih =>
      rw [readPieces, readPiece, List.map_cons]
      cases own : Binary64.read? (Text.trim piece) with
      | none => cases samples <;> simp
      | some sample =>
          cases samples with
          | nil => cases readPieces pieces <;> simp [Except.map]
          | cons first others =>
              rw [List.map_cons, List.cons.injEq, Option.some.injEq, ← ih]
              cases readPieces pieces with
              | error fault => simp [Except.map]
              | ok later => simp [Except.map]

theorem read_eq_ok_iff {text : List Char} {samples : List Binary64} :
    read text = .ok samples ↔
      Text.trim text ≠ [] ∧
        (Text.splitAll ',' (Text.trim text)).map (fun piece => Binary64.read? (Text.trim piece)) =
          samples.map some := by
  rw [read, ← readPieces_eq_ok_iff]
  cases Text.trim text with
  | nil => simp
  | cons char rest => simp

theorem exists_map_some_iff {pieces : List (List Char)} :
    (∃ samples : List Binary64,
        pieces.map (fun piece => Binary64.read? (Text.trim piece)) = samples.map some) ↔
      ∀ piece ∈ pieces, Binary64.IsNumberText (Text.trim piece) := by
  induction pieces with
  | nil => simp
  | cons piece pieces ih =>
      rw [List.forall_mem_cons, ← ih, ← Binary64.isSome_read?, Option.isSome_iff_exists]
      constructor
      · rintro ⟨samples, same⟩
        cases samples with
        | nil => cases same
        | cons sample samples =>
            rw [List.map_cons, List.map_cons, List.cons.injEq] at same
            exact ⟨⟨sample, same.1⟩, ⟨samples, same.2⟩⟩
      · rintro ⟨⟨sample, own⟩, ⟨samples, others⟩⟩
        refine ⟨sample :: samples, ?_⟩
        rw [List.map_cons, List.map_cons, own, others]

/-- Samples are refused only for want of any or because of a piece that is no number. -/
theorem exists_read_eq_error_iff {text : List Char} :
    (∃ fault, read text = .error fault) ↔
      Text.trim text = [] ∨
        ∃ piece ∈ Text.splitAll ',' (Text.trim text),
          ¬ Binary64.IsNumberText (Text.trim piece) := by
  have isRead : (∃ samples, read text = .ok samples) ↔
      Text.trim text ≠ [] ∧
        ∀ piece ∈ Text.splitAll ',' (Text.trim text),
          Binary64.IsNumberText (Text.trim piece) := by
    simp only [read_eq_ok_iff, exists_and_left, exists_map_some_iff]
  have orElse : (∃ fault, read text = .error fault) ↔ ¬ ∃ samples, read text = .ok samples := by
    cases read text with
    | error fault => simp
    | ok samples => simp
  rw [orElse, isRead]
  push Not
  rw [imp_iff_not_or, not_not]

end Samples

namespace Executor

variable [PatternLanguage] [WorkingDirectory]

/-- The results of runs with their samples, after earlier ones, up to the first run that cannot be
loaded. -/
def collect (executor : Executor) (files : FileStore) :
    List RunResult → List ResultEntry → Except ExecutorError Unit × List RunResult
  | results, [] => (.ok (), results)
  | results, entry :: entries =>
    match executor.loadRun files entry.runFile with
    | .error error => (.error error, results)
    | .ok run => executor.collect files (results ++ [run.result entry.samples]) entries

theorem loadResult_line (executor : Executor) (files : FileStore) (path : String)
    (entry : ResultEntry) :
    executor.loadResult files path entry.line.toList =
      (executor.loadRun files entry.runFile).map fun run => run.result entry.samples := by
  rw [loadResult, ResultEntry.line, ResultLine.read_append]
  simp only [FileFault.inFile, bind, Except.bind, entry.read_samples]
  cases executor.loadRun files entry.runFile with
  | error error => rfl
  | ok run => rfl

theorem loadResults_lines (executor : Executor) (files : FileStore) (path : String)
    (earlier : List RunResult) (entries : List ResultEntry) :
    executor.loadResults files path earlier (entries.map fun entry => entry.line.toList) =
      executor.collect files earlier entries := by
  induction entries generalizing earlier with
  | nil => rfl
  | cons entry entries ih =>
      rw [List.map_cons, loadResults, loadResult_line, collect]
      cases executor.loadRun files entry.runFile with
      | error error => rfl
      | ok run => exact ih _

/-- What comes of a file of results once its entries are collected, and files were looked at. -/
def concludeWith (executor : Executor) (space : Workspace) :
    Except ExecutorError Unit × List RunResult → Except ExecutorError Unit × Workspace
  | (.error error, results) => (.error error, space.withResults results)
  | (.ok (), results) => executor.complete.perform (space.withResults results)

/-- A step that stores results takes the runs and samples of the entries that were written. -/
theorem storeResults_of_areLinesOf (executor : Executor) {space : Workspace} {path text : String}
    (reads : space.files.read path = .ok text) {entries : List ResultEntry}
    (areLinesOf : AreLinesOf entries text) :
    ∃ looked, (executor.storeResults path).perform space =
      executor.concludeWith (space.look looked)
        (executor.collect space.files space.results entries) := by
  have read := Procedure.perform_read path space
  rw [reads] at read
  rcases executor.perform_fetchResults path (resultLines text) (space.look [path]) with
    ⟨looked, fetched⟩
  have same : (space.look [path]).files = space.files := rfl
  have results : (space.look [path]).results = space.results := rfl
  rw [same, results, resultLines_of_areLinesOf areLinesOf, loadResults_lines,
    Workspace.look_look] at fetched
  refine ⟨[path] ++ looked, ?_⟩
  rw [storeResults, Procedure.perform_bind, read]
  simp only
  rw [resultLines_of_areLinesOf areLinesOf, Procedure.perform_bind, fetched]
  rcases executor.collect space.files space.results entries with ⟨outcome, results⟩
  cases outcome with
  | error error => rfl
  | ok done => rfl

end Executor

/-- Files of results and texts of samples have what was written in them, and a text of samples that
was not written like this is refused or has one sample for each piece. -/
theorem written_samples_are_read [PatternLanguage] [WorkingDirectory] :
    (∀ entries text, AreLinesOf entries text →
      (resultLines text).map ResultLine.readAll =
          entries.map (fun entry => .ok (entry.runFile, entry.samples)) ∧
        ∀ (executor : Executor) (space : Workspace) path, space.files.read path = .ok text →
          ∃ looked, (executor.storeResults path).perform space =
            executor.concludeWith (space.look looked)
              (executor.collect space.files space.results entries)) ∧
      (∀ samples : List Binary64, samples ≠ [] → (∀ sample ∈ samples, sample.isNaN = false) →
        Samples.read (Samples.text samples).toList = .ok samples) ∧
      (∀ text, (∃ fault, Samples.read text = .error fault) ↔
        Text.trim text = [] ∨
          ∃ piece ∈ Text.splitAll ',' (Text.trim text),
            ¬ Binary64.IsNumberText (Text.trim piece)) ∧
      ∀ text samples, Samples.read text = .ok samples →
        (Text.splitAll ',' (Text.trim text)).map (fun piece => Binary64.read? (Text.trim piece)) =
          samples.map some := by
  refine ⟨?_, ?_, ?_, ?_⟩
  · intro entries text areLinesOf
    constructor
    · rw [resultLines_of_areLinesOf areLinesOf, List.map_map]
      apply List.map_congr_left
      intro entry _
      exact ResultLine.readAll_line entry
    · intro executor space path reads
      exact executor.storeResults_of_areLinesOf reads areLinesOf
  · intro samples solid numbers
    apply Samples.read_text solid
    intro sample member
    exact Binary64.read?_plain (numbers sample member)
  · intro text
    exact Samples.exists_read_eq_error_iff
  · intro text samples read
    exact (Samples.read_eq_ok_iff.mp read).2

namespace Demonstration

/-- A run whose path has the separator in it, with samples that are not finite and a zero below
zero. -/
def oddEntry : ResultEntry :=
  ⟨"runs: all/demo.json", [⟨0x7ff0000000000000⟩, ⟨0x8000000000000000⟩, ⟨0xfff0000000000000⟩],
    by decide, by decide, by decide⟩

theorem written_samples_are_read_odd :
    oddEntry.line = "runs: all/demo.json: inf, -0, -inf" ∧
      (resultLines (oddEntry.line ++ "\n")).map ResultLine.readAll =
        [.ok (oddEntry.runFile, oddEntry.samples)] := by
  have line : oddEntry.line = "runs: all/demo.json: inf, -0, -inf" := by decide +kernel
  have areLinesOf : AreLinesOf [oddEntry] (oddEntry.line ++ "\n") := by
    left
    rw [line]
    decide +kernel
  exact ⟨line, (written_samples_are_read.1 [oddEntry] _ areLinesOf).1⟩

end Demonstration

end Microbench
