import Microbench.Progress.Status
import Microbench.Text.Base64

/-!
# Structured events

Every event is one element for a host program.  Identifiers and names are attributes, with the five
special characters replaced by entities; free text travels in Base64.
-/

namespace Microbench

/-- An event about a node of the tree of executions, groups and runs. -/
inductive Event where
  | suiteStart (parent id : String)
  | suiteFinish (parent id : String) (status : FinishStatus)
  | testStart (parent className method : String)
  /-- A run has ended normally. -/
  | testFinish (parent id : String) (status : FinishStatus)
  /-- A run was given up. -/
  | testFailure (parent id error trace : String)
  /-- A node has something to say. -/
  | output (parent id text : String)
deriving DecidableEq

namespace Event

/-- The form of a character in an attribute. -/
def escapeChar (char : Char) : List Char :=
  if char = '&' then "&amp;".toList
  else if char = '<' then "&lt;".toList
  else if char = '>' then "&gt;".toList
  else if char = '\'' then "&apos;".toList
  else if char = '"' then "&quot;".toList
  else [char]

def escape (text : String) : String := String.ofList (text.toList.flatMap escapeChar)

def section64 (text : String) : String :=
  "<![CDATA[" ++ String.ofList (Base64.encodeText text) ++ "]]>"

def kind : Event → String
  | suiteStart .. => "beforeSuite"
  | suiteFinish .. => "afterSuite"
  | testStart .. => "beforeTest"
  | testFinish .. => "afterTest"
  | testFailure .. => "afterTest"
  | output .. => "onOutput"

/-- The node that an event is about. -/
def id : Event → String
  | suiteStart _ id => id
  | suiteFinish _ id _ => id
  | testStart _ className method => className ++ "." ++ method
  | testFinish _ id _ => id
  | testFailure _ id _ _ => id
  | output _ id _ => id

/-- The node above the one that an event is about. -/
def parent : Event → String
  | suiteStart parent _ => parent
  | suiteFinish parent _ _ => parent
  | testStart parent _ _ => parent
  | testFinish parent _ _ => parent
  | testFailure parent _ _ _ => parent
  | output parent _ _ => parent

/-- The beginning of an element that tells an outcome. -/
def resultHead (status : FinishStatus) : String :=
  "<result resultType='" ++ status.resultType ++ "' startTime='0' endTime='0'"

/-- What an event tells about its node. -/
def body : Event → String
  | suiteStart _ id => "<descriptor name='" ++ escape id ++ "'/>"
  | suiteFinish _ _ status => resultHead status ++ "/>"
  | testStart _ className method =>
    "<descriptor name='" ++ escape method ++ "' className='" ++ escape className ++ "' />"
  | testFinish _ _ status => resultHead status ++ "/>"
  | testFailure _ _ error trace =>
    resultHead .failure ++ "><errorMsg>" ++ section64 error ++ "</errorMsg><stackTrace>" ++
      section64 trace ++ "</stackTrace></result>"
  | output _ _ text => "<event destination='StdOut'>" ++ section64 text ++ "</event>"

def text (event : Event) : String :=
  "<ijLog><event type='" ++ event.kind ++ "'><test id='" ++ escape event.id ++
    "' parentId='" ++ escape event.parent ++ "'>" ++ event.body ++ "</test></event></ijLog>"

end Event

end Microbench
