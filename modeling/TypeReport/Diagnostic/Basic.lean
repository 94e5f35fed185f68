import TypeReport.Backtrace.Basic
import TypeReport.Location.Basic

/-! # Diagnostics

A diagnostic is one error of the compiler, read: where it is, the source lines the
compiler echoed, the part of the last of them that it marked, and what kind of
error it is.  Mismatches carry a backtrace; any other error is plain text. -/

namespace TypeReport

/-- A source line that the compiler echoed, with the number it printed. -/
structure SourceLine where
  number : Nat
  text : Text
deriving DecidableEq

/-- What an error is about.  An expression has another type than its context expects; an
implementation differs from its interface, and the item they differ in may be located in both.  Any
other error is kept verbatim. -/
inductive Kind where
  | plain (text : Text)
  | expressionMismatch (summary : Text) (backtrace : Backtrace)
  | interfaceMismatch (summary : Text) (actual expected : Option Location) (backtrace : Backtrace)
deriving DecidableEq

namespace Kind

/-- Short stable name of a kind. -/
def name : Kind → Text
  | plain .. => "plain".toList
  | expressionMismatch .. => "expression_mismatch".toList
  | interfaceMismatch .. => "interface_mismatch".toList

def backtrace? : Kind → Option Backtrace
  | plain .. => none
  | expressionMismatch _ b => some b
  | interfaceMismatch _ _ _ b => some b

def mapPath (style : Text → Text) : Kind → Kind
  | interfaceMismatch summary actual expected b =>
      interfaceMismatch summary (actual.map (·.mapPath style)) (expected.map (·.mapPath style)) b
  | k => k

end Kind

/-- One error of the compiler: where it is, the source that the compiler echoed, the part of the
last source line that it marked, and what the error is about. -/
structure Diagnostic where
  location : Location
  snippet : List SourceLine
  marker : Option Span
  kind : Kind
deriving DecidableEq

namespace Diagnostic

/-- Title of a diagnostic at a place in the stream, counted from zero. -/
def title (e : Diagnostic) (index : Nat) : Text :=
  "Error #".toList ++ Text.ofNat (index + 1) ++ " in ".toList ++ e.location.place

/-- Number of the line that carries the marker. -/
def focusLine? (e : Diagnostic) : Option Nat := e.snippet.getLast?.map (·.number)

def mapPath (style : Text → Text) (e : Diagnostic) : Diagnostic :=
  { e with location := e.location.mapPath style, kind := e.kind.mapPath style }

end Diagnostic
end TypeReport
