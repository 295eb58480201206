import Microbench.Settings.Error
import Microbench.Text.Blank
import Microbench.Text.Numeral
import Microbench.Text.Split

/-!
# Entries of a runner configuration

A configuration is a text with an entry in every line that is not empty: a key, a colon and a
value.  A line without a colon is a key with an empty value.  What a key means is asked for key by
key: one value, at most one value, a number in a range, or all values.
-/

namespace Microbench.Runner

/-- A line of a configuration. -/
structure Entry where
  /-- What stands before the first colon. -/
  key : String
  /-- What stands after it. -/
  value : String
deriving DecidableEq

namespace Entry

def ofLine (line : List Char) : Entry :=
  match Text.splitFirst? ':' line with
  | some (key, value) => ⟨String.ofList key, String.ofList value⟩
  | none => ⟨String.ofList line, ""⟩

def ofText (text : String) : List Entry :=
  ((Text.lines text.toList).filter fun line => !line.isEmpty).map ofLine

end Entry

def values (entries : List Entry) (key : String) : List String :=
  entries.filterMap fun entry => if entry.key = key then some entry.value else none

/-- The value of a key that may be missing, but not repeated. -/
def single? (entries : List Entry) (key : String) : Except SettingError (Option String) :=
  match values entries key with
  | [] => .ok none
  | [value] => .ok (some value)
  | several => .error (.repeated key several.length)

/-- The value of a key that is required. -/
def single (entries : List Entry) (key : String) : Except SettingError String :=
  match single? entries key with
  | .error error => .error error
  | .ok none => .error (.missing key)
  | .ok (some value) => .ok value

/-- The value of a key that may be missing, as `parse` takes it. -/
def parsed? {α : Type} (entries : List Entry) (key : String)
    (parse : String → Except SettingError α) : Except SettingError (Option α) :=
  match single? entries key with
  | .error error => .error error
  | .ok none => .ok none
  | .ok (some value) => (parse value).map some

/-- Integers are of sixty-four bits with a sign; blanks around them do not count. -/
def readInteger? (text : String) : Option Int :=
  Numeral.readWithin? 0x8000000000000000 (Text.trim text.toList)

/-- The number from `least` to `most` that a value denotes. -/
def parseNumber (key : String) (least : Least) (most : Int) (value : String) :
    Except SettingError Nat :=
  match readInteger? value with
  | none => .error (.noNumber key value)
  | some number =>
    if least.toInt ≤ number ∧ number ≤ most then .ok number.toNat
    else .error (.outOfRange key value least)

/-- The name and the value in an entry's value. -/
def parsePair (key entry : String) : Except SettingError (String × String) :=
  match Text.splitFirst? '=' entry.toList with
  | some (name, value) => .ok (String.ofList name, String.ofList value)
  | none => .error (.noPair key entry)

/-- Checks texts in order, up to the first that is wrong. -/
def checkAll {α β : Type} (check : α → Except SettingError β) :
    List α → Except SettingError (List β)
  | [] => .ok []
  | item :: items =>
    match check item with
    | .error error => .error error
    | .ok result => (checkAll check items).map (result :: ·)

def pairs (entries : List Entry) (key : String) : Except SettingError (List (String × String)) :=
  checkAll (parsePair key) (values entries key)

def parsePattern (kind pattern : String) : Except SettingError String :=
  if Text.isBlank pattern.toList then .error (.blankPattern kind pattern) else .ok pattern

def patterns (entries : List Entry) (kind : String) : Except SettingError (List String) :=
  checkAll (parsePattern kind) (values entries kind)

end Microbench.Runner
