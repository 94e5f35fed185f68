import TypeReport.Report.Event

/-! # The strings of an event

An event carries texts that come from outside: paths and labels, source lines, the
texts of an error and the sides of its frames, and the pieces of a stream that show why
it cannot be read. -/

namespace TypeReport

def Location.strings (l : Location) : List Text := l.path :: l.label.toList

def LocationFault.strings : LocationFault → List Text
  | other reason => [reason]
  | _ => []

def Failure.strings : Failure → List Text
  | malformedLocation line fault => line :: fault.strings
  | malformedStart _ line => [line]
  | unexpectedLine line => [line]
  | missingErrorLine place => [place]
  | unrecognizedConnective chunk => [chunk]

def Backtrace.strings (b : Backtrace) : List Text :=
  b.frames.flatMap (fun f => [f.implementation, f.interface]) ++ b.notice.toList

def Kind.strings : Kind → List Text
  | plain text => [text]
  | expressionMismatch summary b => summary :: b.strings
  | interfaceMismatch summary actual expected b =>
      summary :: (actual.toList ++ expected.toList).flatMap Location.strings ++ b.strings

def Diagnostic.strings (e : Diagnostic) : List Text :=
  e.location.strings ++ e.snippet.map (·.text) ++ e.kind.strings

def Event.strings : Event → List Text
  | diagnostic _ e => e.strings
  | skipped s => s.location.toList.flatMap Location.strings ++ s.failure.strings
  | _ => []

end TypeReport
