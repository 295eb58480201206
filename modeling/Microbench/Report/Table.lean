import Microbench.Report.DenseNames
import Microbench.Report.Result

/-!
# Reports as text tables

A header line and one line for each result.  Every column has a width that its cells are filled up
to, so that it ends at the same place in all lines.
-/

namespace Microbench.Report.Table

/-- Blanks before a text, up to a width. -/
def padBefore (width : Nat) (text : String) : List Char :=
  List.replicate (width - text.toList.length) ' ' ++ text.toList

/-- Blanks after a text, up to a width. -/
def padAfter (width : Nat) (text : String) : List Char :=
  text.toList ++ List.replicate (width - text.toList.length) ' '

/-- The length of the longest text, but no less than `least`. -/
def longest (least : Nat) (texts : List String) : Nat :=
  (texts.map fun text => text.toList.length).foldl max least

/-- Blanks between columns. -/
def padding : Nat := 2

/-- A column: what stands in the header line, and in the line of a result. -/
structure Column where
  /-- The header, filled up to the width. -/
  header : List Char
  /-- The cell of a result, filled up to the width. -/
  cell : RunResult → List Char

/-- A column whose cells end where the column does. -/
def rightColumn (header : String) (width : Nat) (cell : RunResult → String) : Column :=
  ⟨padBefore width header, fun result => padBefore width (cell result)⟩

/-- Decimal places of scores and errors. -/
def places : Nat := 3

def scoreText (result : RunResult) : String := Amount.fixed result.score places false

def errorText (result : RunResult) : String := Amount.fixed result.error places false

def countText (result : RunResult) : String := toString result.samples.length

/-- The column of names, which starts at the left. -/
def nameColumn (results : List RunResult) : Column :=
  let package := SharedPackage.ofNames (results.map RunResult.benchmark)
  let name := fun (result : RunResult) => package.denseName result.benchmark
  let width := longest "Benchmark".toList.length (results.map name)
  ⟨padAfter width "Benchmark", fun result => padAfter width (name result)⟩

def parameterColumn (results : List RunResult) (parameter : String) : Column :=
  let values := results.filterMap fun result => result.parameters.get? parameter
  let width := longest (parameter.toList.length + 2) values + padding
  rightColumn ("(" ++ parameter ++ ")") width fun result =>
    (result.parameters.get? parameter).getD "N/A"

/-- A column that is as wide as its longest text. -/
def fittedColumn (results : List RunResult) (header : String) (cell : RunResult → String) :
    Column :=
  rightColumn header (longest header.toList.length (results.map cell) + padding) cell

/-- The column of sample counts; a single sample is not counted. -/
def countColumn (results : List RunResult) : Column :=
  let width := longest "Cnt".toList.length (results.map countText) + padding
  rightColumn "Cnt" width fun result =>
    if 1 < result.samples.length then countText result else " "

/-- The column of errors, which has a sign of its own before an error and is blank where the error
is negligible. -/
def errorColumn (results : List RunResult) : Column :=
  let width := longest "Error".toList.length (results.map errorText) + padding - 1
  ⟨' ' :: ' ' :: padBefore width "Error", fun result =>
    if Amount.isNaNOrZero result.error then ' ' :: ' ' :: padBefore width ""
    else ' ' :: '±' :: padBefore width (errorText result)⟩

def columns (results : List RunResult) : List Column :=
  nameColumn results :: (RunResult.parameterNames results).map (parameterColumn results) ++
    [fittedColumn results "Mode" fun result => result.settings.mode.short,
      countColumn results,
      fittedColumn results "Score" scoreText,
      errorColumn results,
      fittedColumn results "Units" fun result => result.settings.unitText]

def headerLine (columns : List Column) : List Char := columns.flatMap Column.header

def line (columns : List Column) (result : RunResult) : List Char :=
  columns.flatMap fun column => column.cell result

def render (results : List RunResult) : String :=
  let columns := columns results
  String.ofList ((headerLine columns :: results.map (line columns)).flatMap (· ++ ['\n']))

end Microbench.Report.Table
