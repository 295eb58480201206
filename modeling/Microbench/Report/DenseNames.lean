import Microbench.Text.LowerCase
import Microbench.Text.Split

/-!
# Dense names

Qualified names are shortened by the lower-case segments with which all of them start.  If all
lower-case leading segments of the first name are shared they are dropped; if some name leaves them
early, the shared ones shrink to their first characters.
-/

namespace Microbench.Report

abbrev Segments := List (List Char)

namespace Segments

/-- The segments between the dots of a name. -/
def ofName (name : String) : Segments := Text.splitAll '.' name.toList

/-- The lower-case segments a name starts with. -/
def leading (segments : Segments) : Segments := segments.takeWhile Text.isLowerCase

/-- The segments that a shared beginning has in common with a name. -/
def common : Segments → Segments → Segments
  | shared :: others, segment :: segments =>
    if shared = segment ∧ Text.isLowerCase segment then shared :: common others segments else []
  | _, _ => []

end Segments

/-- What the names of a report have in common. -/
structure SharedPackage where
  /-- The segments with which all names start. -/
  segments : Segments
  /-- Whether some name leaves the package of the first one early. -/
  isCut : Bool
deriving DecidableEq

namespace SharedPackage

/-- What remains shared with one more name. -/
def meet (shared : SharedPackage) (name : String) : SharedPackage :=
  let common := Segments.common shared.segments (.ofName name)
  ⟨common, shared.isCut || common.length != shared.segments.length⟩

def ofNames : List String → SharedPackage
  | [] => ⟨[], false⟩
  | first :: rest => rest.foldl meet ⟨(Segments.ofName first).leading, false⟩

/-- What is written for the shared segments. -/
def shortened (shared : SharedPackage) : Segments :=
  if shared.isCut then shared.segments.map fun segment => segment.take 1 else []

/-- The short form of a name. -/
def denseName (shared : SharedPackage) (name : String) : String :=
  let rest := (Segments.ofName name).drop shared.segments.length
  String.ofList (['.'].intercalate
    ((shared.shortened ++ rest).filter fun segment => !segment.isEmpty))

end SharedPackage

/-- The short forms of names, in order. -/
def denseNames (names : List String) : List String :=
  names.map (SharedPackage.ofNames names).denseName

end Microbench.Report
