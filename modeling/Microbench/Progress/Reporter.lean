import Microbench.Progress.Console
import Microbench.Progress.Structured
import Microbench.Runner.Configuration

/-!
# Reporters

A reporter turns calls into lines of a stream.  The stream may refuse a line or the line feed after
it; what is refused is lost, and the reporter goes on as if it had been written.
-/

namespace Microbench

/-- A reporter of either kind. -/
inductive Reporter where
  | console
  /-- Events for a host program. -/
  | structured (cursor : Cursor)
deriving DecidableEq

namespace Reporter

def create : TraceFormat → Reporter
  | .text => .console
  | .xml => .structured .initial

/-- What a reporter would keep in a file. -/
def cursor? : Reporter → Option Cursor
  | console => none
  | structured cursor => some cursor

/-- Goes on from a cursor that was kept. -/
def restore (reporter : Reporter) (cursor : Cursor) : Reporter :=
  match reporter with
  | console => console
  | structured _ => structured cursor

/-- The reporter and the lines after a call. -/
def report (reporter : Reporter) (call : ReporterCall) : Reporter × List String :=
  match reporter with
  | console => (console, Console.lines call)
  | structured cursor =>
    let (cursor, events) := Structured.step cursor call
    (structured cursor, events.map Event.text)

def reportAll (reporter : Reporter) : List ReporterCall → Reporter × List String
  | [] => (reporter, [])
  | call :: calls =>
    let (reporter, lines) := reporter.report call
    let (reporter, later) := reporter.reportAll calls
    (reporter, lines ++ later)

end Reporter

def streamText (lines : List String) : String := String.join (lines.map (· ++ "\n"))

/-- A stream that may refuse to be written to. -/
structure LineStream where
  /-- Whether the write with a number is refused. -/
  refuses : Nat → Bool
  /-- How many writes were tried. -/
  writes : Nat
  /-- The lines that were ended. -/
  written : List String
  /-- What was written since the last line was ended. -/
  rest : String

namespace LineStream

/-- A stream that was never written to. -/
def start (refuses : Nat → Bool) : LineStream := ⟨refuses, 0, [], ""⟩

/-- Writes a text, and says whether it was taken. An empty text takes no write. -/
def write (stream : LineStream) (text : String) : Bool × LineStream :=
  if text = "" then (true, stream)
  else if stream.refuses stream.writes then (false, { stream with writes := stream.writes + 1 })
  else (true, { stream with writes := stream.writes + 1, rest := stream.rest ++ text })

/-- Writes a line feed. -/
def endLine (stream : LineStream) : LineStream :=
  if stream.refuses stream.writes then { stream with writes := stream.writes + 1 }
  else ⟨stream.refuses, stream.writes + 1, stream.written ++ [stream.rest], ""⟩

/-- Writes a line and, if it was taken, a line feed. -/
def offer (stream : LineStream) (line : String) : LineStream :=
  match stream.write line with
  | (true, stream) => stream.endLine
  | (false, stream) => stream

/-- Offers lines one after the other. -/
def offerAll (stream : LineStream) (lines : List String) : LineStream :=
  lines.foldl offer stream

end LineStream

end Microbench
