import Microbench.Binary64.Reading
import Microbench.Binary64.Shortest
import Microbench.Runner.Error
import Microbench.Text.Blank
import Microbench.Text.Numeral
import Microbench.Text.Split

/-!
# Samples and counts in files

Steps of an execution leave numbers for each other: samples with commas between them, and the
number of invocations in an iteration, or the word null when there is none.
-/

namespace Microbench

/-- What a file has when there is no number to leave. -/
def nullText : String := "null"

namespace Samples

def sampleText (sample : Binary64) : String := String.ofList sample.plain

def text (samples : List Binary64) : String := ", ".intercalate (samples.map sampleText)

def readPiece (piece : List Char) : Except FileFault Binary64 :=
  let piece := Text.trim piece
  match Binary64.read? piece with
  | some sample => .ok sample
  | none => .error (.noSample (String.ofList piece))

/-- The samples in pieces of a text, up to the first that is none. -/
def readPieces : List (List Char) → Except FileFault (List Binary64)
  | [] => .ok []
  | piece :: pieces =>
    match readPiece piece with
    | .error fault => .error fault
    | .ok sample => (readPieces pieces).map (sample :: ·)

def read (text : List Char) : Except FileFault (List Binary64) :=
  let text := Text.trim text
  if text.isEmpty then .error .noSamples else readPieces (Text.splitAll ',' text)

end Samples

/-- The number of invocations in a text: 1 if the text has no number to leave. -/
def readCycles (text : String) : Except FileFault UInt64 :=
  let trimmed := Text.trim text.toList
  if trimmed.isEmpty || trimmed = nullText.toList then .ok 1
  else
    match Numeral.readUInt64? trimmed with
    | some count => .ok count
    | none => .error (.noCount (String.ofList trimmed))

/-- The path of a run descriptor, and the text of the run's samples. -/
structure ResultLine where
  path : String
  samples : List Char
deriving DecidableEq

/-- The path and the samples in a line: the last colon with a blank after it parts them. -/
def ResultLine.read (line : List Char) : Except FileFault ResultLine :=
  match Text.splitAtLast? ": ".toList line with
  | some (path, samples) => .ok ⟨String.ofList path, samples⟩
  | none => .error (.noResult (String.ofList line))

def resultLines (text : String) : List (List Char) :=
  (Text.lines text.toList).filter fun line => !Text.isBlank line

end Microbench
