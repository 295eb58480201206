import Microbench.CommandLine.Basic

/-!
# Reading of command lines

Arguments are read from left to right.  What an argument says is checked when the next option or
the next free argument is met, or the end: an earlier fault is found first, except that an unknown
argument and a flag with a value are found at once.
-/

namespace Microbench.CommandLine

/-- What has been read but not yet checked. -/
inductive Unchecked where
  | nothing
  | configuration (path : String)
  | action (action : Action) (values : List String)

/-- What has been read of a command line. -/
structure Partial where
  /-- The path of the configuration, if it has been met. -/
  configuration? : Option String
  /-- Whether the flag for more logging has been met. -/
  isVerbose : Bool
  /-- The actions with their values, in the order in which they were checked. -/
  actions : List (Action × List String)
  /-- What is not checked yet. -/
  unchecked : Unchecked
  /-- Whether only free arguments may follow. -/
  onlyFree : Bool

namespace Partial

/-- Nothing has been read. -/
def start : Partial := ⟨none, false, [], .nothing, false⟩

def complete (state : Partial) (action : Action) (values : List String) :
    Except UsageError Partial :=
  if values.isEmpty then .error .noValue
  else if values.length ≠ action.arity then .error .wrongCount
  else .ok { state with actions := state.actions ++ [(action, values)], unchecked := .nothing }

/-- Checks what is not checked yet. -/
def check (state : Partial) : Except UsageError Partial :=
  match state.unchecked with
  | .nothing => .ok state
  | .configuration path =>
    if path = "" then .error .noValue else .ok { state with unchecked := .nothing }
  | .action action values => state.complete action values

/-- Asks for more logging, which can be asked for once. -/
def setVerbose (state : Partial) : Except UsageError Partial :=
  if state.isVerbose then .error .conflict else .ok { state with isVerbose := true }

/-- An option by its name, perhaps with a value attached. -/
def longOption (state : Partial) (name : String) (value? : Option String) :
    Except UsageError Partial := do
  match Action.ofName? name with
  | some action =>
    let state ← state.check
    match value? with
    | some value => state.complete action [value]
    | none => return { state with unchecked := .action action [] }
  | none =>
    let flag (act : Partial → Except UsageError Partial) : Except UsageError Partial :=
      if value?.isSome then .error .tooManyValues else state.check.bind act
    match name with
    | "verbose" => flag setVerbose
    | "help" => flag fun _ => .error .help
    | "version" => flag fun _ => .error .version
    | _ => .error .unknownArgument

def shortOptions (state : Partial) : List Char → Except UsageError Partial
  | [] => .ok state
  | 'v' :: letters => do
    let state ← state.check
    (← state.setVerbose).shortOptions letters
  | 'h' :: _ => do
    let _ ← state.check
    .error .help
  | 'V' :: _ => do
    let _ ← state.check
    .error .version
  | _ => .error .unknownArgument

/-- An argument that belongs to no option: the path of the configuration is the only one. -/
def freeArgument (state : Partial) (argument : String) : Except UsageError Partial := do
  if state.configuration?.isSome then .error .unknownArgument
  else
    let state ← state.check
    return { state with configuration? := some argument, unchecked := .configuration argument }

/-- An argument that is no option: a value of an action that lacks some, or a free argument. -/
def plainArgument (state : Partial) (argument : String) : Except UsageError Partial :=
  match state.unchecked with
  | .action action values =>
    if values.length < action.arity then
      .ok { state with unchecked := .action action (values ++ [argument]) }
    else state.freeArgument argument
  | _ => state.freeArgument argument

def read (state : Partial) (argument : String) : Except UsageError Partial :=
  if state.onlyFree then state.freeArgument argument
  else
    match argument.toList with
    | ['-', '-'] => .ok { state with onlyFree := true }
    | '-' :: '-' :: option =>
      match Text.splitFirst? '=' option with
      | some (name, value) =>
        state.longOption (String.ofList name) (some (String.ofList value))
      | none => state.longOption (String.ofList option) none
    | '-' :: letter :: letters => state.shortOptions (letter :: letters)
    | _ => state.plainArgument argument

/-- What the command line says once it has been read. -/
def finish (state : Partial) : Except UsageError CommandLine := do
  let state ← state.check
  match state.actions with
  | (first, values) :: others =>
    if others.any fun other => other.1 ≠ first then .error .conflict
    else
      match state.configuration? with
      | none => .error .missingArgument
      | some path => return ⟨path, state.isVerbose, some (first, values)⟩
  | [] =>
    match state.configuration? with
    | none => .error .missingArgument
    | some path => return ⟨path, state.isVerbose, none⟩

end Partial

/-- What arguments say. -/
def parse (arguments : List String) : Except UsageError CommandLine := do
  (← arguments.foldlM Partial.read .start).finish

end Microbench.CommandLine
