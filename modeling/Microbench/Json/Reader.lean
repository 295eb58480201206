import Microbench.Json.Basic
import Microbench.Json.Token

/-!
# Reading JSON

A text is read token by token.  What is under construction is a stack of open containers; at any
moment the reading expects a value, a name, a colon, or what may follow a value.
-/

namespace Microbench.Json

/-- A tree that was read. -/
abbrev Tree := Json (Option String)

/-- A container that is still open, with its items so far, the last one first. -/
inductive Frame where
  | array (items : List Tree)
  | object (members : List (Option String × Tree))
  /-- An object whose last member has a name, but no value yet. -/
  | member (members : List (Option String × Tree)) (name : Option String)

/-- What may come next. -/
inductive Expectation where
  | value
  /-- A value, or the end of an array without items. -/
  | valueOrClose
  | name
  /-- The name of a member, or the end of an object without members. -/
  | nameOrClose
  | colon
  /-- What follows a value: a comma or the end of the container. -/
  | separator
  /-- Nothing: the tree is complete. -/
  | nothing (tree : Tree)

/-- How far the reading of a text has come. -/
structure Reading where
  /-- Open containers, the innermost first. -/
  frames : List Frame
  /-- What may come next. -/
  expects : Expectation

namespace Reading

/-- Nothing has been read. -/
def start : Reading := ⟨[], .value⟩

/-- Puts a value where it belongs. -/
def put (tree : Tree) : List Frame → Option Reading
  | [] => some ⟨[], .nothing tree⟩
  | .array items :: frames => some ⟨.array (tree :: items) :: frames, .separator⟩
  | .member members name :: frames =>
    some ⟨.object ((name, tree) :: members) :: frames, .separator⟩
  | .object _ :: _ => none

def scalar? : Token → Option Tree
  | .null => some .null
  | .bool value => some (.bool value)
  | .number lexeme => some (.number lexeme)
  | .string text => some (.string text)
  | _ => none

def beginValue (frames : List Frame) : Token → Option Reading
  | .openArray => some ⟨.array [] :: frames, .valueOrClose⟩
  | .openObject => some ⟨.object [] :: frames, .nameOrClose⟩
  | token => (scalar? token).bind fun tree => put tree frames

def takeName : List Frame → Token → Option Reading
  | .object members :: frames, .string name => some ⟨.member members name :: frames, .colon⟩
  | _, _ => none

/-- Ends the innermost container. -/
def close : List Frame → Token → Option Reading
  | .array items :: frames, .closeArray => put (.array items.reverse) frames
  | .object members :: frames, .closeObject => put (.object members.reverse) frames
  | _, _ => none

def step (reading : Reading) (token : Token) : Option Reading :=
  match reading.expects, token with
  | .value, token => beginValue reading.frames token
  | .valueOrClose, .closeArray => close reading.frames .closeArray
  | .valueOrClose, token => beginValue reading.frames token
  | .name, token => takeName reading.frames token
  | .nameOrClose, .closeObject => close reading.frames .closeObject
  | .nameOrClose, token => takeName reading.frames token
  | .colon, .colon => some ⟨reading.frames, .value⟩
  | .colon, _ => none
  | .separator, .comma =>
    match reading.frames with
    | .array _ :: _ => some ⟨reading.frames, .value⟩
    | .object _ :: _ => some ⟨reading.frames, .name⟩
    | _ => none
  | .separator, token => close reading.frames token
  | .nothing _, _ => none

/-- Takes tokens one after the other. -/
def run (reading : Reading) : List Token → Option Reading
  | [] => some reading
  | token :: tokens => (reading.step token).bind fun reading => reading.run tokens

def tree? (reading : Reading) : Option Tree :=
  match reading.expects with
  | .nothing tree => some tree
  | _ => none

end Reading

def read? (text : List Char) : Option Tree :=
  ((tokens? text).bind Reading.start.run).bind Reading.tree?

end Microbench.Json
