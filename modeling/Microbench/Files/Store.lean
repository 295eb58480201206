import Microbench.Files.Route
import Microbench.Text.Entries

/-!
# Files

A store of files and directories.  A file can be read and written where the directories on the way
to it are there; writing makes those that are missing.
-/

namespace Microbench

/-- What is at a place. -/
inductive FileEntry where
  | directory
  | file (text : String)
deriving DecidableEq

/-- Files and directories by their places. -/
structure FileStore where
  /-- What is where. -/
  entries : List (String × FileEntry)
deriving DecidableEq

namespace FileStore

/-- A store with nothing but the working directory. -/
def empty : FileStore := ⟨[]⟩

def put (store : FileStore) (place : String) (entry : FileEntry) : FileStore :=
  ⟨Entries.update place (fun _ => entry) store.entries⟩

/-- The files, by their places. -/
def files (store : FileStore) : List (String × String) :=
  store.entries.filterMap fun (place, entry) =>
    match entry with
    | .file text => some (place, text)
    | .directory => none

variable [WorkingDirectory]

/-- What is at a place: the working directory and those around it are there. -/
def at? (store : FileStore) (place : String) : Option FileEntry :=
  if place ∈ Route.around WorkingDirectory.names then some .directory
  else Entries.find? place store.entries

/-- What a path leads to. -/
def lookUp? (store : FileStore) (path : String) : Option FileEntry := do
  let route ← Route.ofPath? path
  if route.through.all fun place => store.at? place = some .directory then
    let entry ← store.at? route.target
    if route.endsInDirectory && entry != .directory then none else some entry
  else none

/-- Whether a path leads to something. -/
def holds (store : FileStore) (path : String) : Bool := (store.lookUp? path).isSome

def read? (store : FileStore) (path : String) : Option String :=
  match store.lookUp? path with
  | some (.file text) => some text
  | _ => none

/-- Makes directories, outermost first, unless something else is there. -/
def makeDirectories (store : FileStore) : List String → Option FileStore
  | [] => some store
  | place :: places =>
    match store.at? place with
    | some .directory => store.makeDirectories places
    | some (.file _) => none
    | none => (store.put place .directory).makeDirectories places

/-- Writes a file, unless a directory is in its place. -/
def write? (store : FileStore) (path text : String) : Option FileStore := do
  let route ← Route.ofPath? path
  let store ← store.makeDirectories route.through
  if route.endsInDirectory || store.at? route.target = some .directory then none
  else some (store.put route.target (.file text))

/-- Makes a directory and those on the way to it. -/
def addDirectory? (store : FileStore) (path : String) : Option FileStore := do
  let route ← Route.ofPath? path
  store.makeDirectories (route.through ++ [route.target])

/-- The files that a later store has with a text that they do not have now. -/
def changes (store later : FileStore) : List (String × String) :=
  later.files.filter fun (place, text) => store.at? place != some (.file text)

end FileStore

end Microbench
