/-!
# The sink

A sink swallows the values that code under measurement computes, so that computing them is never
in vain.  It knows how many values it holds, up to the width of a machine word.
-/

namespace Microbench

/-- A sink for computed values. -/
structure Sink where
  /-- The values since the last flush. -/
  consumed : UInt64
deriving DecidableEq

namespace Sink

/-- A sink without values. -/
def empty : Sink := ⟨0⟩

/-- Takes values in; the count wraps. -/
def consume (sink : Sink) (values : Nat) : Sink := ⟨sink.consumed + .ofNat values⟩

/-- How many values the sink held, and the sink without them. -/
def flush (sink : Sink) : UInt64 × Sink := (sink.consumed, empty)

end Sink

end Microbench
