/-!
# What can be wrong with settings

Each error names its cause; the wording is in one place.
-/

namespace Microbench

/-- What can be wrong with an advanced option. -/
inductive AdvancedError where
  /-- The name has nothing but white space. -/
  | blankName (name : String)
  /-- The value has nothing but white space. -/
  | blankValue (name value : String)
  | noStrategy (name value : String)
  /-- The value is neither true nor false. -/
  | noBoolean (name value : String)
  /-- The value is neither a count nor left to the harness. -/
  | noCount (name value : String)
  | unknownName (name : String)
deriving DecidableEq

def AdvancedError.message : AdvancedError → String
  | blankName name => "Invalid advanced option name: '" ++ name ++ "'. It must not be blank."
  | blankValue name value =>
    "Invalid value for advanced option '" ++ name ++ "': '" ++ value ++
      "'. Value should not be blank."
  | noStrategy name value =>
    "Invalid value for '" ++ name ++ "': '" ++ value ++
      "'. Accepted values: perBenchmark, perIteration."
  | noBoolean name value =>
    "Invalid value for '" ++ name ++ "': '" ++ value ++ "'. Expected a Boolean value."
  | noCount name value =>
    "Invalid value for '" ++ name ++ "': '" ++ value ++
      "'. Expected a non-negative integer or \"definedByJmh\"."
  | unknownName name =>
    "Invalid advanced option name: '" ++ name ++
      "'. Accepted options: \"nativeFork\", \"nativeGCAfterIteration\", \"jvmForks\", " ++
      "\"jsUseBridge\"."

/-- The least number that a setting accepts. -/
inductive Least where
  | zero
  | one
deriving DecidableEq

/-- The numbers from the least on, in words. -/
def Least.describe : Least → String
  | zero => "a non-negative integer"
  | one => "a positive integer"

/-- The least number itself. -/
def Least.toInt : Least → Int
  | zero => 0
  | one => 1

/-- What can be wrong with settings. -/
inductive SettingError where
  /-- A required key is not there. -/
  | missing (key : String)
  /-- A key with one value is there more than once. -/
  | repeated (key : String) (count : Nat)
  | unsupported (kind value : String) (accepted : List String)
  | noNumber (key value : String)
  | outOfRange (key value : String) (least : Least)
  | noPair (key entry : String)
  /-- A pattern has nothing but white space. -/
  | blankPattern (kind pattern : String)
  /-- A parameter's name has nothing but white space. -/
  | blankParameter (name : String)
  | advanced (cause : AdvancedError)
deriving DecidableEq

/-- The wording of an error in settings. -/
def SettingError.message : SettingError → String
  | missing key => "Parameter \x60" ++ key ++ "\x60 is required."
  | repeated key count =>
    "Parameter \x60" ++ key ++ "\x60 must be specified once, found " ++ toString count ++
      " values."
  | unsupported kind value accepted =>
    "Invalid " ++ kind ++ ": '" ++ value ++ "'. Accepted values: " ++
      ", ".intercalate accepted ++ "."
  | noNumber key value => "Invalid " ++ key ++ ": '" ++ value ++ "'. Expected a number."
  | outOfRange key value least =>
    "Invalid " ++ key ++ ": '" ++ value ++ "'. Expected " ++ least.describe ++ "."
  | noPair key entry =>
    "Parameter name and value format is required for " ++ key ++ ": '" ++ entry ++ "'."
  | blankPattern kind pattern =>
    "Invalid " ++ kind ++ " pattern: '" ++ pattern ++ "'. Pattern must not be blank."
  | blankParameter name => "Invalid param name: '" ++ name ++ "'. It must not be blank."
  | advanced cause => cause.message

end Microbench
