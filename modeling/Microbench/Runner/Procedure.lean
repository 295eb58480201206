import Microbench.Files.Store
import Microbench.Progress.Reporter
import Microbench.Report.Result
import Microbench.Runner.Error
import Microbench.Suite.Activity

/-!
# Procedures

What an execution does is a procedure: it looks at files, tells the reporter something, runs code
under measurement and saves files, one after the other.  An error ends the procedure where it is
raised, and whatever was done before stays done.
-/

namespace Microbench

/-- One thing that happens in a procedure. -/
inductive Occurrence where
  /-- A file was looked for, or read. -/
  | looked (path : String)
  | told (call : ReporterCall)
  /-- Code under measurement ran. -/
  | ran (journal : Journal)
  /-- A file was saved, or it turned out that it cannot be. -/
  | saved (path text : String)
deriving DecidableEq

namespace Occurrence

def call? : Occurrence → Option ReporterCall
  | .told call => some call
  | .looked _ | .ran _ | .saved .. => none

/-- What was done to the code under measurement. -/
def activities : Occurrence → List Activity
  | .ran journal => journal.toList
  | .looked _ | .told _ | .saved .. => []

end Occurrence

/-- What a procedure works on, and the record of what it has done. -/
structure Workspace where
  files : FileStore
  reporter : Reporter
  /-- The lines that the reporter has written. -/
  lines : List String
  /-- The results that are known. -/
  results : List RunResult
  /-- Everything that has happened, in order. -/
  trace : List Occurrence

namespace Workspace

def record (space : Workspace) (occurrence : Occurrence) : Workspace :=
  { space with trace := space.trace ++ [occurrence] }

/-- The reporter is told something. -/
def tell (space : Workspace) (call : ReporterCall) : Workspace :=
  let (reporter, lines) := space.reporter.report call
  { space.record (.told call) with reporter := reporter, lines := space.lines ++ lines }

def withFiles (space : Workspace) (files : FileStore) : Workspace := { space with files := files }

def withReporter (space : Workspace) (reporter : Reporter) : Workspace :=
  { space with reporter := reporter }

def withResults (space : Workspace) (results : List RunResult) : Workspace :=
  { space with results := results }

end Workspace

/-- What may end early with an error. -/
abbrev Procedure : Type → Type := ExceptT ExecutorError (StateM Workspace)

/-- The text of a file that has to be there. -/
def FileStore.read [WorkingDirectory] (files : FileStore) (path : String) :
    Except ExecutorError String :=
  match files.read? path with
  | some text => .ok text
  | none => .error (.unreadable path)

namespace Procedure

variable {α : Type}

/-- How a procedure ends, and what it leaves. -/
def perform (procedure : Procedure α) (space : Workspace) : Except ExecutorError α × Workspace :=
  procedure.run.run space

def note (occurrence : Occurrence) : Procedure Unit :=
  modify fun space => space.record occurrence

/-- Whether a path leads to something. -/
def finds [WorkingDirectory] (path : String) : Procedure Bool := do
  note (.looked path)
  return (← get).files.holds path

def read [WorkingDirectory] (path : String) : Procedure String := do
  note (.looked path)
  (← get).files.read path

def tell (call : ReporterCall) : Procedure Unit :=
  modify fun space => space.tell call

def tellAll : List ReporterCall → Procedure Unit
  | [] => return
  | call :: calls => do
    tell call
    tellAll calls

def save [WorkingDirectory] (path text : String) : Procedure Unit := do
  note (.saved path text)
  match (← get).files.write? path text with
  | some files => modify fun space => space.withFiles files
  | none => throw (.unwritable path)

/-- Keeps a result, after those that are known. -/
def keep (result : RunResult) : Procedure Unit :=
  modify fun space => space.withResults (space.results ++ [result])

end Procedure

end Microbench
