import Microbench.Report.Csv
import Microbench.Report.JsonRecords
import Microbench.Report.Table

/-!
# Formats of reports

A format is named in any case.  The names are of ASCII letters none of which is the lower-case form
of a letter beyond ASCII, so lower-casing ASCII letters is enough to compare them.
-/

namespace Microbench

/-- How a report is written. -/
inductive ReportFormat where
  | json
  /-- Values separated by commas. -/
  | csv
  /-- Values separated by semicolons. -/
  | scsv
  | text
deriving DecidableEq, Inhabited

/-- A text names no format. -/
structure UnsupportedFormat where
  name : String
deriving DecidableEq

namespace ReportFormat

def all : List ReportFormat := [json, csv, scsv, text]

def name : ReportFormat → String
  | json => "json"
  | csv => "csv"
  | scsv => "scsv"
  | text => "text"

def parse (name : String) : Except UnsupportedFormat ReportFormat :=
  match all.find? fun format => format.name.toList == name.toList.map Char.toLower with
  | some format => .ok format
  | none => .error ⟨name⟩

def render (format : ReportFormat) (results : List RunResult) : String :=
  match format with
  | json => Report.JsonRecords.render results
  | csv => Report.Csv.render ',' results
  | scsv => Report.Csv.render ';' results
  | text => Report.Table.render results

end ReportFormat

def UnsupportedFormat.message (error : UnsupportedFormat) : String :=
  "Report format '" ++ error.name ++ "' is not supported. Accepted values: " ++
    ", ".intercalate (ReportFormat.all.map ReportFormat.name) ++ "."

end Microbench
