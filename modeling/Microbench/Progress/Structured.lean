import Microbench.Progress.Call
import Microbench.Progress.Cursor
import Microbench.Progress.Event

/-!
# Structured progress

Calls become events of a tree: the root, the execution below it, groups of runs by class below the
execution, and runs.  A group opens with its first run and closes when a run of another class
starts or the execution ends, so its events depend on the cursor.
-/

namespace Microbench.Structured

def rootId : String := "[root]"

/-- The class and the rest of a run's identifier: they meet at the last dot of the benchmark's
name. -/
def splitRunId (id : String) : String × String :=
  let chars := id.toList
  let name := match Text.splitAtFirst? " | ".toList chars with
    | some (name, _) => name
    | none => chars
  match Text.splitLast? '.' name with
  | some (className, _) =>
    (String.ofList className, String.ofList (chars.drop (className.length + 1)))
  | none => ("", id)

/-- The event that closes the open group, if one is open. -/
def closeClass (suite : String) (cursor : Cursor) : List Event :=
  if cursor.openClass = "" then []
  else [.suiteFinish suite cursor.openClass cursor.classStatus]

def enterClass (suite className : String) (cursor : Cursor) : Cursor × List Event :=
  if cursor.openClass = className then (cursor, [])
  else
    (⟨className, .success, cursor.suiteStatus⟩,
      closeClass suite cursor ++ [.suiteStart suite className])

/-- The cursor once a run has failed. -/
def markFailure (cursor : Cursor) : Cursor := ⟨cursor.openClass, .failure, .failure⟩

def step (cursor : Cursor) : ReporterCall → Cursor × List Event
  | .startSuite suite =>
    ({ cursor with classStatus := .success }, [.suiteStart "" rootId, .suiteStart rootId suite])
  | .endSuite suite summary =>
    (cursor,
      closeClass suite cursor ++
        [.output rootId suite (summary ++ "\n"),
          .suiteFinish rootId suite cursor.suiteStatus,
          .suiteFinish "" rootId cursor.suiteStatus])
  | .startBenchmark suite benchmark =>
    let (className, method) := splitRunId benchmark
    let (cursor, events) := enterClass suite className cursor
    (cursor,
      events ++
        [.testStart cursor.openClass className method,
          .output cursor.openClass benchmark (suite ++ ": " ++ benchmark ++ "\n")])
  | .endBenchmark _ benchmark status message =>
    (if status = .failure then markFailure cursor else cursor,
      [.output cursor.openClass benchmark (message ++ "\n\n"),
        .testFinish cursor.openClass benchmark status])
  | .endException _ benchmark error trace =>
    (markFailure cursor, [.testFailure cursor.openClass benchmark error trace])
  | .output _ benchmark message =>
    (cursor, [.output cursor.openClass benchmark (message ++ "\n")])

def run (cursor : Cursor) : List ReporterCall → Cursor × List Event
  | [] => (cursor, [])
  | call :: calls =>
    let (cursor, events) := step cursor call
    let (cursor, later) := run cursor calls
    (cursor, events ++ later)

end Microbench.Structured
