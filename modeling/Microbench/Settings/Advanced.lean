import Microbench.Settings.Error
import Microbench.Text.Blank
import Microbench.Text.Entries
import Microbench.Text.Numeral

/-!
# Advanced options

Options given by name and value.  A value is checked when it is inserted, and read with its type
when it is asked for; an option that is given again takes the new value and keeps its place.
-/

namespace Microbench

/-- How a benchmark's iterations are spread over processes. -/
inductive ForkStrategy where
  /-- One process for all iterations. -/
  | perBenchmark
  /-- A process for every iteration. -/
  | perIteration
deriving DecidableEq, Inhabited

namespace ForkStrategy

/-- The strategy's name in settings. -/
def name : ForkStrategy → String
  | perBenchmark => "perBenchmark"
  | perIteration => "perIteration"

def ofName? (text : String) : Option ForkStrategy :=
  [perBenchmark, perIteration].find? fun strategy => strategy.name == text

end ForkStrategy

/-- How many processes an external harness starts. -/
inductive HarnessForks where
  | count (number : UInt32)
  /-- As many as the harness likes. -/
  | byHarness
deriving DecidableEq

namespace HarnessForks

/-- The value that leaves the number to the harness. -/
def byHarnessName : String := "definedByJmh"

/-- The number of processes that a value denotes. -/
def ofText? (text : String) : Option HarnessForks :=
  if text = byHarnessName then some byHarness
  else (Numeral.readUInt32? text.toList).map count

end HarnessForks

/-- The truth value that a literal denotes. -/
def readBool? (text : String) : Option Bool :=
  if text = "true" then some true else if text = "false" then some false else none

/-- Options by name, in the order in which they were first given. -/
structure AdvancedOptions where
  entries : List (String × String)
deriving DecidableEq, Inhabited

namespace AdvancedOptions

/-- Name of the option that spreads iterations over processes. -/
def nativeFork : String := "nativeFork"

/-- Name of the option that empties the sink after every iteration. -/
def flushAfterIteration : String := "nativeGCAfterIteration"

/-- Name of the option that sets the processes of an external harness. -/
def harnessForks : String := "jvmForks"

/-- Name of the option that asks for a bridge. -/
def useBridge : String := "jsUseBridge"

def empty : AdvancedOptions := ⟨[]⟩

def get? (options : AdvancedOptions) (name : String) : Option String :=
  Entries.find? name options.entries

def size (options : AdvancedOptions) : Nat := options.entries.length

def isEmpty (options : AdvancedOptions) : Bool := options.entries.isEmpty

/-- What is wrong with an option, if anything is. -/
def problem? (name value : String) : Option AdvancedError :=
  if Text.isBlank name.toList then some (.blankName name)
  else if Text.isBlank value.toList then some (.blankValue name value)
  else if name = nativeFork then
    if (ForkStrategy.ofName? value).isSome then none else some (.noStrategy name value)
  else if name = flushAfterIteration ∨ name = useBridge then
    if (readBool? value).isSome then none else some (.noBoolean name value)
  else if name = harnessForks then
    if (HarnessForks.ofText? value).isSome then none else some (.noCount name value)
  else some (.unknownName name)

/-- Stores an option, in place of an earlier one with its name. -/
def store (options : AdvancedOptions) (name value : String) : AdvancedOptions :=
  ⟨Entries.update name (fun _ => value) options.entries⟩

/-- Offers an option, which is checked and then stored: what comes of it, and what is stored
afterwards. -/
def offer (options : AdvancedOptions) (name value : String) :
    Except AdvancedError Unit × AdvancedOptions :=
  match problem? name value with
  | some error => (.error error, options)
  | none => (.ok (), options.store name value)

/-- The options with another one, unless something is wrong with it. -/
def insert (options : AdvancedOptions) (name value : String) :
    Except AdvancedError AdvancedOptions :=
  let (outcome, stored) := options.offer name value
  outcome.map fun _ => stored

/-- Stores options one after the other, up to the first that is wrong. -/
def insertAll (options : AdvancedOptions) :
    List (String × String) → Except AdvancedError AdvancedOptions
  | [] => .ok options
  | (name, value) :: rest =>
    match options.insert name value with
    | .ok options => options.insertAll rest
    | .error error => .error error

/-- How iterations are spread over processes; all in one unless asked otherwise. -/
def forkStrategy (options : AdvancedOptions) : ForkStrategy :=
  ((options.get? nativeFork).bind ForkStrategy.ofName?).getD .perBenchmark

/-- Whether the sink is emptied after every iteration. -/
def flushesAfterIteration (options : AdvancedOptions) : Bool :=
  options.get? flushAfterIteration == some "true"

/-- How many processes an external harness starts, if that is set. -/
def harnessForkCount (options : AdvancedOptions) : Option HarnessForks :=
  (options.get? harnessForks).bind HarnessForks.ofText?

/-- Whether a bridge is used, if that is set. -/
def usesBridge (options : AdvancedOptions) : Option Bool :=
  (options.get? useBridge).bind readBool?

end AdvancedOptions

end Microbench
