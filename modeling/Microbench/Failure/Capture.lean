import Microbench.Failure.Basic

/-!
# Nested captures

A capture runs code and turns a panic of that code into a failure.  A trace is taken where a panic
is raised, before any capture sees the panic: a recorder keeps it until then.  Code may hold
captures of its own, which deal with their own panics and leave the outer capture as it was.
-/

namespace Microbench

/-- What the captures of a thread share. -/
structure Recorder where
  /-- Whether a capture is running. -/
  isActive : Bool
  /-- The trace of the latest panic, until a capture takes it. -/
  pending? : Option String
deriving DecidableEq

namespace Recorder

/-- The recorder of a thread without captures. -/
def idle : Recorder := ⟨false, none⟩

/-- A panic is raised: its trace is kept if a capture is running. -/
def note (recorder : Recorder) (panic : Panic) : Recorder :=
  if recorder.isActive then { recorder with pending? := some panic.trace } else recorder

/-- The outcome of a capture whose code has ended: a failure takes the trace away. -/
def settle {α : Type} (recorder : Recorder) (phase : Phase) :
    Except Panic α → Except Failure α × Recorder
  | .ok value => (.ok value, recorder)
  | .error panic =>
    (.error ⟨phase, panic.payload.message, recorder.pending?.getD ""⟩,
      { recorder with pending? := none })

end Recorder

/-- Code that may run captures before it ends. -/
inductive Closure (α : Type) where
  /-- It returns a value. -/
  | done (value : α)
  | raise (panic : Panic)
  /-- It captures other code and goes on with the outcome. -/
  | attempt (phase : Phase) (inner : Closure α) (rest : Except Failure α → Closure α)

namespace Closure

variable {α : Type}

/-- How the code ends, the outcomes of its captures in the order in which they end, and the
recorder it leaves. -/
def run : Closure α → Recorder → Except Panic α × List (Except Failure α) × Recorder
  | .done value, recorder => (.ok value, [], recorder)
  | .raise panic, recorder => (.error panic, [], recorder.note panic)
  | .attempt phase inner rest, recorder =>
    let (innerEnd, before, recorder') := inner.run { recorder with isActive := true }
    let (outcome, recorder') :=
      { recorder' with isActive := recorder.isActive }.settle phase innerEnd
    let (restEnd, later, recorder') := (rest outcome).run recorder'
    (restEnd, before ++ outcome :: later, recorder')

/-- The outcomes of the captures of a thread's code, in the order in which they end. -/
def outcomes (code : Closure α) : List (Except Failure α) := (code.run .idle).2.1

def ofExcept : Except Panic α → Closure α
  | .ok value => .done value
  | .error panic => .raise panic

/-- Code that ends as given after one capture, in whose code the next level is captured, and so
on inwards. -/
def nested (ending : Except Panic α) : List (Phase × Except Panic α) → Closure α
  | [] => ofExcept ending
  | (phase, inner) :: levels => .attempt phase (nested inner levels) fun _ => ofExcept ending

end Closure

end Microbench
