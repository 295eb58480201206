import Microbench.Binary64.Shortest

/-!
# JSON trees and their texts

A tree keeps the members of an object in order, repeated names included, and a number as it is
written.  Trees are generic in what their strings hold: a tree to be written holds texts, while a
string that was read may escape half of a surrogate pair and then denotes no text.
-/

namespace Microbench

/-- A JSON tree whose strings and member names hold a `σ`. -/
inductive Json (σ : Type) where
  | null
  | bool (value : Bool)
  | number (lexeme : List Char)
  | string (text : σ)
  | array (items : List (Json σ))
  | object (members : List (σ × Json σ))

namespace Json

/-- A natural number as a tree. -/
def ofNat {σ : Type} (value : Nat) : Json σ := .number (Decimal.digits value)

/-- Numbers have a point or a power of ten, which stands from ten to the sixteenth upwards and
below ten to the minus fifth. -/
def numberStyle : NumberStyle := ⟨['.', '0'], fun exponent => -5 ≤ exponent && exponent < 16⟩

/-- The text of a finite number: the shortest that reads back, of two equally near the even. -/
def numberText (datum : Binary64) : List Char :=
  datum.signText ++ (datum.shortest .even).text numberStyle

/-- A number as a tree, null if it is not finite. -/
def ofNumber {σ : Type} (datum : Binary64) : Json σ :=
  if datum.isFinite then .number (numberText datum) else .null

/-- How a text is laid out. -/
structure Layout where
  /-- Stands where a line may end, before an item at a depth. -/
  lineBreak : Nat → List Char
  afterColon : List Char

/-- All in one line, without blanks. -/
def compactLayout : Layout := ⟨fun _ => [], []⟩

/-- Every item in a line of its own, two blanks deeper than its container. -/
def prettyLayout : Layout := ⟨fun depth => '\n' :: List.replicate (2 * depth) ' ', [' ']⟩

def hexDigit (value : Nat) : Char := Nat.digitChar value

/-- The form of a character inside a string. -/
def escapeChar (char : Char) : List Char :=
  if char = '"' then ['\\', '"']
  else if char = '\\' then ['\\', '\\']
  else if char = '\x08' then ['\\', 'b']
  else if char = '\x0c' then ['\\', 'f']
  else if char = '\n' then ['\\', 'n']
  else if char = '\r' then ['\\', 'r']
  else if char = '\t' then ['\\', 't']
  else if char.toNat < 0x20 then
    ['\\', 'u', '0', '0', hexDigit (char.toNat / 16), hexDigit (char.toNat % 16)]
  else [char]

def quote (text : String) : List Char := '"' :: text.toList.flatMap escapeChar ++ ['"']

mutual

/-- The text of a tree at a depth. -/
def write (layout : Layout) (depth : Nat) : Json String → List Char
  | .null => ['n', 'u', 'l', 'l']
  | .bool true => ['t', 'r', 'u', 'e']
  | .bool false => ['f', 'a', 'l', 's', 'e']
  | .number lexeme => lexeme
  | .string text => quote text
  | .array [] => ['[', ']']
  | .array (item :: items) =>
    '[' :: layout.lineBreak (depth + 1) ++ write layout (depth + 1) item ++
      writeItems layout (depth + 1) items ++ layout.lineBreak depth ++ [']']
  | .object [] => ['{', '}']
  | .object ((name, value) :: members) =>
    '{' :: layout.lineBreak (depth + 1) ++ quote name ++ ':' :: layout.afterColon ++
      write layout (depth + 1) value ++ writeMembers layout (depth + 1) members ++
      layout.lineBreak depth ++ ['}']

/-- The texts of further items of an array. -/
def writeItems (layout : Layout) (depth : Nat) : List (Json String) → List Char
  | [] => []
  | item :: items =>
    ',' :: layout.lineBreak depth ++ write layout depth item ++ writeItems layout depth items

/-- The texts of further members of an object. -/
def writeMembers (layout : Layout) (depth : Nat) : List (String × Json String) → List Char
  | [] => []
  | (name, value) :: members =>
    ',' :: layout.lineBreak depth ++ quote name ++ ':' :: layout.afterColon ++
      write layout depth value ++ writeMembers layout depth members

end

/-- The text of a tree in one line. -/
def compact (json : Json String) : String := String.ofList (write compactLayout 0 json)

/-- The text of a tree over many lines. -/
def pretty (json : Json String) : String := String.ofList (write prettyLayout 0 json)

end Json

end Microbench
