import TypeReport.Report.Event

/-! # Without marks

The marker of a diagnostic and the marks of its frames are the only parts of an
event that a terminal emphasises.  Without them colours change nothing but
paint. -/

namespace TypeReport

def Frame.unmarked (f : Frame) : Frame :=
  { f with implementationMark := none, interfaceMark := none }

def Backtrace.unmarked (b : Backtrace) : Backtrace :=
  { b with frames := b.frames.map Frame.unmarked }

def Kind.unmarked : Kind → Kind
  | plain text => plain text
  | expressionMismatch summary b => expressionMismatch summary b.unmarked
  | interfaceMismatch summary actual expected b =>
      interfaceMismatch summary actual expected b.unmarked

/-- A diagnostic without its marker and without marks. -/
def Diagnostic.unmarked (e : Diagnostic) : Diagnostic :=
  { e with marker := none, kind := e.kind.unmarked }

/-- An event without markers and marks. -/
def Event.unmarked : Event → Event
  | diagnostic index e => diagnostic index e.unmarked
  | e => e

end TypeReport
