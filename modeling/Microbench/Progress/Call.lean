import Microbench.Progress.Status

/-!
# Calls to a reporter

What a runner tells while it works.
-/

namespace Microbench

/-- What a reporter is told.  An execution is named by its name and a run by its identifier. -/
inductive ReporterCall where
  | startSuite (suite : String)
  | endSuite (suite summary : String)
  | startBenchmark (suite benchmark : String)
  | endBenchmark (suite benchmark : String) (status : FinishStatus) (message : String)
  /-- A run was given up. -/
  | endException (suite benchmark error trace : String)
  /-- A run has something to say. -/
  | output (suite benchmark message : String)
deriving DecidableEq

end Microbench
