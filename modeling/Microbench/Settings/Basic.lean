import Microbench.Settings.Advanced
import Microbench.Settings.Mode

/-!
# Settings of a run

A run takes each setting from the runner's overrides where they have one, and from the defaults of
its suite elsewhere.
-/

namespace Microbench

/-- The settings a suite declares. -/
structure Defaults where
  iterations : UInt32
  /-- Iterations before the measured ones. -/
  warmups : UInt32
  iterationTime : IterationTime
  outputUnit : TimeUnit
  /-- What reported values count. -/
  mode : Mode
deriving DecidableEq

namespace Defaults

/-- The settings of a suite that declares none. -/
def standard : Defaults := ⟨3, 3, ⟨1, .seconds⟩, .milliseconds, .throughput⟩

instance : Inhabited Defaults := ⟨standard⟩

end Defaults

/-- The settings a runner asks for. -/
structure Overrides where
  iterations : Option UInt32
  /-- Iterations before the measured ones. -/
  warmups : Option UInt32
  /-- How many units of time an iteration should fill. -/
  iterationTime : Option UInt64
  iterationTimeUnit : Option TimeUnit
  outputUnit : Option TimeUnit
  /-- What reported values count. -/
  mode : Option Mode
deriving DecidableEq

namespace Overrides

/-- Nothing is overridden. -/
def none : Overrides := ⟨.none, .none, .none, .none, .none, .none⟩

instance : Inhabited Overrides := ⟨none⟩

end Overrides

/-- The settings that a run has. -/
structure Settings where
  iterations : UInt32
  /-- Iterations before the measured ones. -/
  warmups : UInt32
  iterationTime : IterationTime
  outputUnit : TimeUnit
  /-- What reported values count. -/
  mode : Mode
  advanced : AdvancedOptions
deriving DecidableEq, Inhabited

namespace Settings

/-- The settings of a run: overrides win, field by field. -/
def resolve (overrides : Overrides) (defaults : Defaults) (advanced : AdvancedOptions) :
    Settings where
  iterations := overrides.iterations.getD defaults.iterations
  warmups := overrides.warmups.getD defaults.warmups
  iterationTime :=
    ⟨overrides.iterationTime.getD defaults.iterationTime.value,
      overrides.iterationTimeUnit.getD defaults.iterationTime.unit⟩
  outputUnit := overrides.outputUnit.getD defaults.outputUnit
  mode := overrides.mode.getD defaults.mode
  advanced := advanced

/-- The settings without overrides, declared defaults and options. -/
def standard : Settings := resolve .none .standard .empty

/-- The time that an iteration should fill, in nanoseconds. -/
def budget (settings : Settings) : UInt64 := settings.iterationTime.nanos

/-- The sample for an operation that takes `nanos` nanoseconds. -/
def sample (settings : Settings) (nanos : Float) : Float :=
  settings.mode.sample settings.outputUnit nanos

/-- The label of samples. -/
def unitText (settings : Settings) : String := settings.mode.unitText settings.outputUnit

/-- A sample with its label. -/
def sampleText (settings : Settings) (sample : Float) : String :=
  settings.mode.sampleText settings.outputUnit sample

/-- The sample for an operation that takes `nanos` nanoseconds, with its label. -/
def nanosText (settings : Settings) (nanos : Float) : String :=
  settings.sampleText (settings.sample nanos)

def text (settings : Settings) : String :=
  "iterations=" ++ toString settings.iterations.toNat ++
    ", warmups=" ++ toString settings.warmups.toNat ++
    ", iterationTime=" ++ toString settings.iterationTime.value.toNat ++
    ", iterationTimeUnit=" ++ settings.iterationTime.unit.short ++
    ", outputTimeUnit=" ++ settings.outputUnit.short ++
    ", mode=" ++ settings.mode.short ++
    String.join (settings.advanced.entries.map fun entry =>
      ", " ++ entry.1 ++ "=" ++ entry.2)

end Settings

end Microbench
