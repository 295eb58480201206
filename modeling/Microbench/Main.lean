import Microbench.CommandLine.Program
import Microbench.CommandLine.Reader
import Microbench.Suite.Demonstration

/-!
# The runner

The program reads the files that it may need, runs the demonstration suites as its command line
says, prints the progress and writes the files that have changed.
-/

namespace Microbench

/-- How the program is called. -/
def usage : List String :=
  ["Usage: microbench [-v] CONFIGURATION [ACTION]", "", "Actions:"] ++
    Action.all.map fun action => "  --" ++ action.name ++ " with " ++ toString action.arity ++
      " values"

/-- The name and the version of the program. -/
def versionLine : String := "microbench 0.1.0"

/-- Adds files to a store, if they can be read. -/
def readFiles [WorkingDirectory] (files : FileStore) (paths : List String) : IO FileStore :=
  paths.foldlM
    (fun files (path : String) => do
      try
        return (files.write? path (← IO.FS.readFile path)).getD files
      catch _ => return files)
    files

/-- Writes a file in its place and makes the directories on the way to it. -/
def writeFile [WorkingDirectory] (place text : String) : IO Unit := do
  let path := "/" ++ place
  if let some route := Route.ofPath? path then
    for directory in route.through do
      IO.FS.createDirAll ("/" ++ directory)
  IO.FS.writeFile path text

/-- The names on the way of a path from the root, the innermost first. -/
def namesOf (path : String) : List String :=
  (((Text.splitAll '/' path.toList).map String.ofList).filter fun name => name ≠ "").reverse

def runProgram [WorkingDirectory] (commandLine : CommandLine) : IO UInt32 := do
  let named ← readFiles .empty commandLine.paths
  let files ← readFiles named (commandLine.mentionedPaths named)
  let outcome := commandLine.run Demonstration.suites files
  for line in outcome.lines do
    IO.println line
  for (place, text) in files.changes outcome.files do
    writeFile place text
  match outcome.ending with
  | .ok () => return 0
  | .error error =>
    IO.eprintln error.message
    if let some cause := error.cause? then
      IO.eprintln cause.message
    return 1

end Microbench

def main (arguments : List String) : IO UInt32 := do
  match Microbench.CommandLine.parse arguments with
  | .ok commandLine =>
    let here ← IO.currentDir
    @Microbench.runProgram ⟨Microbench.namesOf here.toString⟩ commandLine
  | .error .help =>
    for line in Microbench.usage do
      IO.println line
    return 0
  | .error .version =>
    IO.println Microbench.versionLine
    return 0
  | .error error =>
    IO.eprintln error.message
    return 2
