import Microbench.Files.Route
import Microbench.Pattern.Reader
import Microbench.Runner.Plan

/-!
# What the program finds around it

The program reads the patterns of a configuration in the language of this library, which knows the
characters by general categories, scripts and a few other properties.  Unless the program is told
where it was started, it takes this to be the root.
-/

namespace Microbench

instance Pattern.language : PatternLanguage where
  read? text := (Pattern.read? text).map Pattern.isIn

instance WorkingDirectory.root : WorkingDirectory := ⟨[]⟩

end Microbench
