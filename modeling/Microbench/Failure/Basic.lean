/-!
# Failures

Code under measurement gives up by raising a panic.  A phase of a run turns the panic into a
failure, which names the phase and keeps the panic's text and trace.
-/

namespace Microbench

/-- What a panic carries. -/
inductive Payload where
  | text (message : String)
  /-- A value that is no text. -/
  | other
deriving DecidableEq

def Payload.message : Payload → String
  | .text message => message
  | .other => "Unknown panic"

/-- What is put down where a panic is raised. -/
inductive Trace where
  /-- A notice of the panic, and the calls that the code is in. -/
  | full (notice calls : String)
  /-- A mark in the place of these. -/
  | elided
deriving DecidableEq

def Trace.text : Trace → String
  | .full notice calls => notice ++ "\n" ++ calls
  | .elided => "<trace>"

/-- Code under measurement gave up. -/
structure Panic where
  /-- What the code gave as the reason. -/
  payload : Payload
  /-- Where the code was. -/
  origin : Trace
deriving DecidableEq

namespace Panic

def trace (panic : Panic) : String := panic.origin.text

/-- A trace in full has a line feed in it at least. -/
theorem trace_ne_empty (panic : Panic) : panic.trace ≠ "" := by
  rw [trace]
  cases panic.origin with
  | full notice calls => simp [Trace.text]
  | elided => decide

end Panic

/-- The phases of a run. -/
inductive Phase where
  /-- An instance is made ready. -/
  | setup
  /-- The invocations that fill an iteration are counted. -/
  | estimation
  /-- The iteration of this index before the measured ones. -/
  | warmup (index : Nat)
  /-- The measured iteration of this index. -/
  | measurement (index : Nat)
  | teardown
deriving DecidableEq

def Phase.text : Phase → String
  | .setup => "setup"
  | .estimation => "cycle estimation"
  | .warmup index => "warm-up #" ++ toString index
  | .measurement index => "iteration #" ++ toString index
  | .teardown => "teardown"

/-- The early end of a run. -/
structure Failure where
  /-- Where the run ended. -/
  phase : Phase
  message : String
  /-- The trace of the panic that ended it, empty if it was none. -/
  trace : String
deriving DecidableEq

/-- The failure of a phase in which a panic was raised. -/
def Panic.failure (panic : Panic) (phase : Phase) : Failure :=
  ⟨phase, panic.payload.message, panic.trace⟩

/-- The outcome of a phase: a panic is the phase's failure. -/
def Phase.capture {α : Type} (phase : Phase) : Except Panic α → Except Failure α
  | .ok value => .ok value
  | .error panic => .error (panic.failure phase)

end Microbench
