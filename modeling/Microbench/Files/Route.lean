import Microbench.Text.Split

/-!
# Routes

A path leads from the root or from the working directory through directories to a place.  Which
places these are does not depend on what is there, so a route can be worked out from the path alone.
-/

namespace Microbench

/-- The directory in which the program was started. -/
class WorkingDirectory where
  /-- The names on the straight way to it from the root, the innermost first. -/
  names : List String

/-- The way that a path goes.  A place is known by the names on the straight way to it; the root
is the empty text. -/
structure Route where
  /-- The places that must be directories, outermost first. -/
  through : List String
  /-- The place that the path leads to. -/
  target : String
  /-- Whether the path says that a directory is there. -/
  endsInDirectory : Bool
deriving DecidableEq

namespace Route

/-- The longest name of a place, in bytes. -/
def nameLimit : Nat := 255

/-- The longest path, in bytes. -/
def pathLimit : Nat := 4095

/-- Whether a place can have a name. -/
def isName (name : String) : Bool := !name.contains '\x00' && name.utf8ByteSize ≤ nameLimit

/-- A place by the names on the way to it, the innermost first. -/
def place (names : List String) : String := "/".intercalate names.reverse

/-- The places of a directory and of those around it. -/
def around : List String → List String
  | [] => [place []]
  | name :: names => place (name :: names) :: around names

/-- Goes on from a place, by the names on the way to it, the innermost first.  Two dots lead back,
and from the root they lead nowhere else. -/
def goOn (names : List String) : List String → Option Route
  | [] => some ⟨[], place names, true⟩
  | part :: parts =>
    if part = "" || part = "." then goOn names parts
    else if part = ".." then goOn names.tail parts
    else if !isName part then none
    else
      match parts with
      | [] => some ⟨[], place (part :: names), false⟩
      | _ :: _ => (goOn (part :: names) parts).map fun route =>
        { route with through := place (part :: names) :: route.through }

variable [WorkingDirectory]

/-- Goes where the parts of a path lead.  A path that begins with a slash starts at the root, and
the empty path leads nowhere. -/
def start : List String → Option Route
  | [] => none
  | part :: parts =>
    if part ≠ "" then goOn WorkingDirectory.names (part :: parts)
    else if parts.isEmpty then none
    else goOn [] parts

/-- The route of a path, unless the path is too long. -/
def ofPath? (path : String) : Option Route :=
  if pathLimit < path.utf8ByteSize then none
  else start ((Text.splitAll '/' path.toList).map String.ofList)

end Route

def joinPath (directory file : String) : String :=
  if file.startsWith "/" || directory = "" then file
  else if directory.endsWith "/" then directory ++ file
  else directory ++ "/" ++ file

end Microbench
