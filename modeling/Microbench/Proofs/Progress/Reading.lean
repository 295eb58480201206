import Mathlib.Data.List.Infix
import Microbench.Proofs.Progress.Lines
import Microbench.Proofs.Text.Base64
import Microbench.Proofs.Text.Parts

/-!
# Reading events

A host program finds out from the text of an event what it tells. An attribute goes up to the next
apostrophe, and one pass from left to right puts the special characters in the place of their
entities. Free text goes up to the end of its section and is read from Base64. Whatever stands in
identifiers, names, messages and traces, the event is read that was written.
-/

namespace Microbench

open Text

namespace Event

/-- Puts special characters in the place of their entities. -/
def unescape : List Char → List Char
  | '&' :: 'a' :: 'm' :: 'p' :: ';' :: rest => '&' :: unescape rest
  | '&' :: 'l' :: 't' :: ';' :: rest => '<' :: unescape rest
  | '&' :: 'g' :: 't' :: ';' :: rest => '>' :: unescape rest
  | '&' :: 'a' :: 'p' :: 'o' :: 's' :: ';' :: rest => '\'' :: unescape rest
  | '&' :: 'q' :: 'u' :: 'o' :: 't' :: ';' :: rest => '"' :: unescape rest
  | char :: rest => char :: unescape rest
  | [] => []

theorem unescape_escapeChar (char : Char) (rest : List Char) :
    unescape (escapeChar char ++ rest) = char :: unescape rest := by
  rw [escapeChar]
  split_ifs with isAnd isLess isMore isQuote isDoubleQuote
  · rw [isAnd]
    rfl
  · rw [isLess]
    rfl
  · rw [isMore]
    rfl
  · rw [isQuote]
    rfl
  · rw [isDoubleQuote]
    rfl
  · rw [List.singleton_append, unescape]
    all_goals
      intro _ isAmpersand
      exact absurd isAmpersand isAnd

theorem unescape_escape (text : String) : unescape (escape text).toList = text.toList := by
  rw [escape, String.toList_ofList]
  induction text.toList with
  | nil => rfl
  | cons char rest ih => rw [List.flatMap_cons, unescape_escapeChar, ih]

theorem quote_notMem_escape (text : String) : '\'' ∉ (escape text).toList := by
  have kept (char : Char) : '\'' ∉ escapeChar char := by
    rw [escapeChar]
    split_ifs with isAnd isLess isMore isQuote isDoubleQuote
    · decide
    · decide
    · decide
    · decide
    · decide
    · intro same
      exact isQuote (List.mem_singleton.mp same).symm
  rw [escape, String.toList_ofList, List.mem_flatMap]
  rintro ⟨char, -, quote⟩
  exact kept char quote

/-- Reads what has to be there. -/
def skip? (mark : String) (text : List Char) : Option (List Char) :=
  text.dropPrefix? mark.toList

/-- Reads an attribute up to the next apostrophe, which is its end. -/
def value? (text : List Char) : Option (String × List Char) := do
  let (value, rest) ← splitFirst? '\'' text
  return (String.ofList (unescape value), rest)

/-- Reads a section of free text. -/
def payload? (text : List Char) : Option (String × List Char) := do
  let rest ← skip? "<![CDATA[" text
  let (digits, rest) ← splitAtFirst? "]]>".toList rest
  let payload ← Base64.decodeText? digits
  return (payload, rest)

theorem skip?_append (mark : String) (rest : List Char) :
    skip? mark (mark.toList ++ rest) = some rest := by
  rw [skip?, List.dropPrefix?_eq_some_iff]
  exact ⟨mark.toList, rfl, beq_self_eq_true _⟩

/-- The end of an attribute is its closing apostrophe, whatever the value is. -/
theorem value?_escape (value : String) (rest : List Char) :
    value? ((escape value).toList ++ '\'' :: rest) = some (value, rest) := by
  rw [value?, splitFirst?_eq_some_iff.mpr ⟨quote_notMem_escape value, rfl⟩]
  change some (String.ofList (unescape (escape value).toList), rest) = _
  rw [unescape_escape, String.ofList_toList]

theorem value?_escape_append (mark later : String) (quoted : mark = "'" ++ later)
    (value : String) (rest : List Char) :
    value? ((escape value).toList ++ (mark.toList ++ rest)) =
      some (value, later.toList ++ rest) := by
  rw [quoted, String.toList_append]
  exact value?_escape value (later.toList ++ rest)

theorem bracket_notMem_encodeText (text : String) : ']' ∉ Base64.encodeText text :=
  Base64.notMem_encode (by decide) (by decide) _

theorem payload?_section64 (payload : String) (rest : List Char) :
    payload? ((section64 payload).toList ++ rest) = some (payload, rest) := by
  have ended : splitAtFirst? "]]>".toList (Base64.encodeText payload ++ ("]]>".toList ++ rest)) =
      some (Base64.encodeText payload, rest) :=
    splitAtFirst?_append_of_notMem (bracket_notMem_encodeText payload) _ rest
  rw [payload?, section64]
  simp only [String.toList_append, String.toList_ofList, List.append_assoc, skip?_append,
    Option.bind_eq_bind, Option.bind_some, ended, Base64.decodeText?_encodeText]
  rfl

/-- The outcome that a result names. -/
def resultType? (name : String) : Option FinishStatus :=
  [.success, .failure].find? fun status => status.resultType == name

/-- Reads the beginning of an element that tells an outcome. -/
def result? (text : List Char) : Option (FinishStatus × List Char) := do
  let rest ← skip? "<result resultType='" text
  let (name, rest) ← value? rest
  let status ← resultType? name
  let rest ← skip? " startTime='0' endTime='0'" rest
  return (status, rest)

theorem escape_resultType (status : FinishStatus) :
    escape status.resultType = status.resultType := by
  cases status <;> decide

theorem resultType?_resultType (status : FinishStatus) :
    resultType? status.resultType = some status := by
  cases status <;> decide

theorem result?_resultHead (status : FinishStatus) (rest : List Char) :
    result? ((resultHead status).toList ++ rest) = some (status, rest) := by
  have name := value?_escape_append "' startTime='0' endTime='0'" " startTime='0' endTime='0'" rfl
    status.resultType rest
  rw [escape_resultType] at name
  unfold result? resultHead
  simp only [String.toList_append, List.append_assoc, skip?_append, name, resultType?_resultType,
    Option.bind_eq_bind, Option.bind_some, Option.pure_def]

section Bodies

variable (parent id : String)

/-- Reads how a node is named that opens. -/
def suiteStart? (text : List Char) : Option (Event × List Char) := do
  let rest ← skip? "<descriptor name='" text
  let (name, rest) ← value? rest
  let rest ← skip? "/>" rest
  if name = id then return (suiteStart parent id, rest) else none

theorem suiteStart?_body (rest : List Char) :
    suiteStart? parent id ((suiteStart parent id).body.toList ++ rest) =
      some (suiteStart parent id, rest) := by
  have name := value?_escape_append "'/>" "/>" rfl id rest
  unfold suiteStart? body
  simp only [String.toList_append, List.append_assoc, skip?_append, name, Option.bind_eq_bind,
    Option.bind_some, Option.pure_def, if_true]

/-- Reads how a node has ended. -/
def suiteFinish? (text : List Char) : Option (Event × List Char) := do
  let (status, rest) ← result? text
  let rest ← skip? "/>" rest
  return (suiteFinish parent id status, rest)

theorem suiteFinish?_body (status : FinishStatus) (rest : List Char) :
    suiteFinish? parent id ((suiteFinish parent id status).body.toList ++ rest) =
      some (suiteFinish parent id status, rest) := by
  unfold suiteFinish? body
  simp only [String.toList_append, List.append_assoc, skip?_append, result?_resultHead,
    Option.bind_eq_bind, Option.bind_some, Option.pure_def]

/-- Reads how a run is named that starts. -/
def testStart? (text : List Char) : Option (Event × List Char) := do
  let rest ← skip? "<descriptor name='" text
  let (method, rest) ← value? rest
  let rest ← skip? " className='" rest
  let (className, rest) ← value? rest
  let rest ← skip? " />" rest
  if className ++ "." ++ method = id then return (testStart parent className method, rest)
  else none

theorem testStart?_body (className method : String) (rest : List Char) :
    testStart? parent (className ++ "." ++ method)
        ((testStart parent className method).body.toList ++ rest) =
      some (testStart parent className method, rest) := by
  have methodName := value?_escape_append "' className='" " className='" rfl method
  have ofClass := value?_escape_append "' />" " />" rfl className rest
  unfold testStart? body
  simp only [String.toList_append, List.append_assoc, skip?_append, methodName, ofClass,
    Option.bind_eq_bind, Option.bind_some, Option.pure_def, if_true]

/-- Reads why a run was given up. -/
def testFailure? (text : List Char) : Option (Event × List Char) := do
  let rest ← skip? "><errorMsg>" text
  let (error, rest) ← payload? rest
  let rest ← skip? "</errorMsg><stackTrace>" rest
  let (trace, rest) ← payload? rest
  let rest ← skip? "</stackTrace></result>" rest
  return (testFailure parent id error trace, rest)

/-- Reads how a run has ended, with more about it if it was given up. -/
def testEnd? (text : List Char) : Option (Event × List Char) := do
  let (status, rest) ← result? text
  match skip? "/>" rest with
  | some rest => return (testFinish parent id status, rest)
  | none => if status = .failure then testFailure? parent id rest else none

theorem testEnd?_finished (status : FinishStatus) (rest : List Char) :
    testEnd? parent id ((testFinish parent id status).body.toList ++ rest) =
      some (testFinish parent id status, rest) := by
  unfold testEnd? body
  simp only [String.toList_append, List.append_assoc, skip?_append, result?_resultHead,
    Option.bind_eq_bind, Option.bind_some, Option.pure_def]

theorem testEnd?_failed (error trace : String) (rest : List Char) :
    testEnd? parent id ((testFailure parent id error trace).body.toList ++ rest) =
      some (testFailure parent id error trace, rest) := by
  have more (rest : List Char) : skip? "/>" ("><errorMsg>".toList ++ rest) = none := by
    simp [skip?, List.dropPrefix?]
  unfold testEnd? testFailure? body
  simp only [String.toList_append, List.append_assoc, more, result?_resultHead,
    payload?_section64, skip?_append, Option.bind_eq_bind, Option.bind_some, Option.pure_def,
    if_true]

/-- Reads what a node has to say. -/
def output? (text : List Char) : Option (Event × List Char) := do
  let rest ← skip? "<event destination='StdOut'>" text
  let (said, rest) ← payload? rest
  let rest ← skip? "</event>" rest
  return (output parent id said, rest)

theorem output?_body (said : String) (rest : List Char) :
    output? parent id ((output parent id said).body.toList ++ rest) =
      some (output parent id said, rest) := by
  unfold output? body
  simp only [String.toList_append, List.append_assoc, skip?_append, payload?_section64,
    Option.bind_eq_bind, Option.bind_some, Option.pure_def]

/-- Reads what an event of a kind tells about a node. -/
def body? (kind : String) : List Char → Option (Event × List Char) :=
  if kind = "beforeSuite" then suiteStart? parent id
  else if kind = "afterSuite" then suiteFinish? parent id
  else if kind = "beforeTest" then testStart? parent id
  else if kind = "afterTest" then testEnd? parent id
  else if kind = "onOutput" then output? parent id
  else fun _ => none

end Bodies

theorem body?_body (event : Event) (rest : List Char) :
    body? event.parent event.id event.kind (event.body.toList ++ rest) = some (event, rest) := by
  cases event with
  | suiteStart parent id => exact suiteStart?_body parent id rest
  | suiteFinish parent id status => exact suiteFinish?_body parent id status rest
  | testStart parent className method => exact testStart?_body parent className method rest
  | testFinish parent id status => exact testEnd?_finished parent id status rest
  | testFailure parent id error trace => exact testEnd?_failed parent id error trace rest
  | output parent id said => exact output?_body parent id said rest

/-- Reads an event up to what closes its elements. -/
def told? (text : List Char) : Option (Event × List Char) := do
  let rest ← skip? "<ijLog><event type='" text
  let (kind, rest) ← value? rest
  let rest ← skip? "><test id='" rest
  let (id, rest) ← value? rest
  let rest ← skip? " parentId='" rest
  let (parent, rest) ← value? rest
  let rest ← skip? ">" rest
  body? parent id kind rest

/-- What closes the elements of an event. -/
def closingTags : String := "</test></event></ijLog>"

/-- The event that a text tells, if it is the text of one. -/
def read? (text : String) : Option Event := do
  let (event, rest) ← told? text.toList
  if rest = closingTags.toList then return event else none

theorem escape_kind (event : Event) : escape event.kind = event.kind := by
  cases event
  all_goals
    rw [kind]
    decide

theorem told?_text (event : Event) :
    told? event.text.toList = some (event, closingTags.toList) := by
  have kind := value?_escape_append "'><test id='" "><test id='" rfl event.kind
  have id := value?_escape_append "' parentId='" " parentId='" rfl event.id
  have parent := value?_escape_append "'>" ">" rfl event.parent
  rw [escape_kind] at kind
  have closing : "</test></event></ijLog>" = closingTags := rfl
  unfold told?
  rw [text_eq, closing]
  simp only [String.toList_append, List.append_assoc, skip?_append, kind, id, parent, body?_body,
    Option.bind_eq_bind, Option.bind_some]

/-- The event that was written is read. -/
theorem read?_text (event : Event) : read? event.text = some event := by
  unfold read?
  rw [told?_text, Option.bind_eq_bind, Option.bind_some]
  exact if_pos rfl

/-- Every event can be read from its text. In particular attributes are read up to the next
apostrophe, sections have no end inside them and stand for the UTF-8 bytes of their texts, and
different events never have the same text. -/
theorem written_is_read :
    (∀ event, read? event.text = some event) ∧
      (∀ value rest, value? ((escape value).toList ++ '\'' :: rest) = some (value, rest)) ∧
      (∀ payload : String,
        Base64.decode? (Base64.encodeText payload) = some payload.toUTF8.data.toList ∧
          ¬ "]]>".toList <:+: Base64.encodeText payload ∧
          ∀ rest, payload? ((section64 payload).toList ++ rest) = some (payload, rest)) ∧
      Function.Injective text := by
  refine ⟨read?_text, value?_escape, ?_, ?_⟩
  · intro payload
    refine ⟨Base64.decode?_encodeText payload, ?_, payload?_section64 payload⟩
    intro ended
    exact bracket_notMem_encodeText payload (ended.subset (by decide))
  · intro event other same
    have read := read?_text event
    rw [same, read?_text other, Option.some.injEq] at read
    exact read.symm

end Event

end Microbench
