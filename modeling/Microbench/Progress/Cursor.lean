import Microbench.Progress.Status
import Microbench.Text.Blank
import Microbench.Text.Split

/-!
# The cursor of structured progress

Which group is open, and whether anything in it, or at all, has failed.  A cursor is kept in a file
of three lines while no process is running; lines that are missing or unreadable stand for the
initial cursor.
-/

namespace Microbench

/-- Where structured progress stands. -/
structure Cursor where
  /-- The group that is open, or nothing. -/
  openClass : String
  /-- Whether anything in the open group has failed. -/
  classStatus : FinishStatus
  /-- Whether anything has failed. -/
  suiteStatus : FinishStatus
deriving DecidableEq

namespace Cursor

/-- Nothing is open and nothing has failed. -/
def initial : Cursor := ⟨"", .success, .success⟩

instance : Inhabited Cursor := ⟨initial⟩

def encode (cursor : Cursor) : String :=
  cursor.openClass ++ "\n" ++ cursor.classStatus.name ++ "\n" ++ cursor.suiteStatus.name ++ "\n"

def decodeStatus (line : Option (List Char)) : FinishStatus :=
  match line with
  | none => .success
  | some line =>
    match FinishStatus.parse (String.ofList (Text.trim line)) with
    | .ok status => status
    | .error _ => .success

def decode (text : String) : Cursor :=
  let lines := Text.lines text.toList
  ⟨String.ofList (lines[0]?.getD []), decodeStatus lines[1]?, decodeStatus lines[2]?⟩

end Cursor

end Microbench
