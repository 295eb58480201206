/-!
# Outcomes

How a benchmark, or a group of them, has ended.
-/

namespace Microbench

/-- How a benchmark has ended. -/
inductive FinishStatus where
  | success
  | failure
deriving DecidableEq, Inhabited

/-- A text names no outcome. -/
structure UnknownStatus where
  text : String
deriving DecidableEq

def UnknownStatus.message (error : UnknownStatus) : String :=
  "unknown finish status '" ++ error.text ++ "'"

namespace FinishStatus

def name : FinishStatus → String
  | success => "Success"
  | failure => "Failure"

/-- The name of an outcome in structured events. -/
def resultType : FinishStatus → String
  | success => "SUCCESS"
  | failure => "FAILURE"

/-- The outcome with a name. -/
def parse (text : String) : Except UnknownStatus FinishStatus :=
  if text = success.name then .ok success
  else if text = failure.name then .ok failure
  else .error ⟨text⟩

end FinishStatus

end Microbench
