import Microbench.Progress.Call

/-!
# Progress for people

Each call is shown as plain lines, without any memory of earlier calls.
-/

namespace Microbench.Console

def lines : ReporterCall → List String
  | .startSuite _ => []
  | .endSuite _ summary => ["", summary]
  | .startBenchmark _ benchmark => ["", "… " ++ benchmark]
  | .endBenchmark _ _ status message => ["  " ++ status.name ++ ": " ++ message]
  | .endException _ _ error trace => ["  EXCEPTION: " ++ error, trace]
  | .output _ _ message => [message]

end Microbench.Console
