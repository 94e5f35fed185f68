import TypeReport.Json.Basic
import TypeReport.Report.Event

/-! # Records

A record is the JSON object of a diagnostic or of a skipped block.  It is spread
over lines, and so are its snippet, its backtrace and the frames of the latter;
each source line, each frame and everything inside them stays on one line. -/

namespace TypeReport.Record

/-- A field with a name. -/
def named (key : String) (v : Json) : Text × Json := (key.toList, v)

/-- A value that may be absent. -/
def optional {α : Type} (f : α → Json) : Option α → Json
  | none => .null
  | some a => f a

def ofSpan (r : Span) : Json :=
  .object [named "start" (.number r.start), named "end" (.number r.stop)]

/-- The array of a range of characters. -/
def ofRange (r : Nat × Nat) : Json := .array [.number r.1, .number r.2]

def ofLocation (l : Location) : Json :=
  .object
    [named "path" (.string l.path), named "start_line" (.number l.startLine),
     named "end_line" (.number l.endLine), named "characters" (optional ofRange l.characters),
     named "label" (optional .string l.label)]

def ofSourceLine (l : SourceLine) : Json :=
  .object [named "line" (.number l.number), named "text" (.string l.text)]

def ofFrame (f : Frame) : Json :=
  .object
    [named "implementation" (.string f.implementation), named "interface" (.string f.interface),
     named "highlight_impl" (optional ofSpan f.implementationMark),
     named "highlight_intf" (optional ofSpan f.interfaceMark)]

def ofBacktrace (b : Backtrace) : Json :=
  .object
    [named "frames" (.array (b.frames.map ofFrame)),
     named "additional_error" (optional .string b.notice)]

/-- The fields about the kind of an error. -/
def kindFields : Kind → List (Text × Json)
  | .plain text => [named "text" (.string text)]
  | .expressionMismatch summary b =>
      [named "summary" (.string summary), named "backtrace" (ofBacktrace b)]
  | .interfaceMismatch summary actual expected b =>
      [named "summary" (.string summary), named "actual" (optional ofLocation actual),
       named "expected" (optional ofLocation expected), named "backtrace" (ofBacktrace b)]

/-- The record of a diagnostic. -/
def ofDiagnostic (index : Nat) (e : Diagnostic) : Json :=
  .object <|
    [named "index" (.number index), named "title" (.string (e.title index)),
     named "location" (ofLocation e.location),
     named "snippet" (.array (e.snippet.map ofSourceLine)),
     named "marker" (optional ofSpan e.marker), named "kind" (.string e.kind.name)] ++
      kindFields e.kind

def ofSkipped (s : Skipped) : Json :=
  .object
    [named "index" (.number s.index), named "failed" (.bool true),
     named "kind" (.string s.failure.kind), named "message" (.string s.failure.message),
     named "location" (optional ofLocation s.location)]

/-- Whether the value of a field is spread over lines. -/
def isSpread (key : Text) : Bool :=
  key ∈ ["snippet".toList, "backtrace".toList, "frames".toList]

/-- A record as it stands in the array of records. -/
def print (record : Json) : Text := Json.indent 1 ++ Json.block isSpread 1 record

end TypeReport.Record
