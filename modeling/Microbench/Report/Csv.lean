import Microbench.Report.Result

/-!
# Reports of separated values

A header and one record for each result.  Texts stand in quotes, a quote inside written twice;
numbers stand bare.  Records end with a carriage return and a line feed.
-/

namespace Microbench.Report.Csv

def quote (text : String) : List Char :=
  '"' :: text.toList.flatMap (fun char => if char = '"' then ['"', '"'] else [char]) ++ ['"']

/-- A record of fields that are written already. -/
def record (delimiter : Char) (fields : List (List Char)) : List Char :=
  [delimiter].intercalate fields ++ ['\r', '\n']

/-- The columns that every report has. -/
def fixedColumns : List String :=
  ["Benchmark", "Mode", "Threads", "Samples", "Score", "Score Error (99.9%)", "Unit"]

/-- Decimal places of scores and errors. -/
def places : Nat := 6

def header (parameters : List String) : List (List Char) :=
  (fixedColumns ++ parameters.map fun name => "Param: " ++ name).map quote

/-- The fields of a result's record. -/
def row (parameters : List String) (result : RunResult) : List (List Char) :=
  [quote result.benchmark, quote result.settings.mode.short, ['1'],
    Decimal.digits result.samples.length, (Amount.fixed result.score places false).toList,
    (Amount.fixed result.error places false).toList, quote result.settings.unitText] ++
    parameters.map fun name => quote ((result.parameters.get? name).getD "")

def render (delimiter : Char) (results : List RunResult) : String :=
  let parameters := RunResult.parameterNames results
  String.ofList
    ((header parameters :: results.map (row parameters)).flatMap (record delimiter))

end Microbench.Report.Csv
