import TypeReport.Diagnostic.Basic
import TypeReport.Diagnostic.Marker

/-! # Printing plain errors

A plain error is printed as the compiler prints it: its location line, its source
lines with their numbers, a line of carets under the marked part of the last of
them, and its text. -/

namespace TypeReport

/-- A source line with its number and a bar before it. -/
def SourceLine.print (l : SourceLine) : Text := Text.ofNat l.number ++ " | ".toList ++ l.text

/-- The line of carets under a span of a source line whose number takes `labelSize` bytes. -/
def Marker.print (labelSize : Nat) (r : Span) : Text :=
  List.replicate (labelSize + barSize + r.start) ' ' ++ List.replicate r.length '^'

/-- An error that is no mismatch; the marker is a part of the last source line. -/
structure PlainError where
  location : Location
  snippet : List SourceLine
  marker : Option Span
  text : Text

namespace PlainError

def diagnostic (e : PlainError) : Diagnostic := ⟨e.location, e.snippet, e.marker, .plain e.text⟩

def markerLine (e : PlainError) : List Text :=
  match e.marker, e.snippet.getLast? with
  | some r, some last => [Marker.print (Text.ofNat last.number).size r]
  | _, _ => []

/-- The lines of a plain error; the last of them may hold line feeds itself. -/
def lines (d : Dialect) (e : PlainError) : List Text :=
  e.location.print d :: e.snippet.map SourceLine.print ++ e.markerLine ++ [e.text]

/-- A plain error as the compiler prints it. -/
def print (d : Dialect) (e : PlainError) : Text := (e.lines d).flatMap (· ++ ['\n'])

end PlainError
end TypeReport
