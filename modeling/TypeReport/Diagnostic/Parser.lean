import TypeReport.Block
import TypeReport.Diagnostic.Body
import TypeReport.Diagnostic.Marker

/-! # Reading a block

    File "src/a.ml", line 3, characters 14-17:
    3 | let x : int = "a"
                      ^^^
    Error: This expression has type string ...

A block is a location line, echoed lines, and the body of the error.  An echoed
line is a source line, which starts with its number, or a marker line, which has a
caret.  The first line that is neither is blamed before anything behind it is
looked at. -/

namespace TypeReport

/-- A line between the location line and the body of an error: a source line whose number was
printed in `labelSize` bytes, or a line with carets. -/
inductive Echo where
  | source (labelSize : Nat) (line : SourceLine)
  | carets (line : Text)

namespace Echo

def startsWithDigit (line : Text) : Bool := line.head?.any Char.isDigit

/-- Reads a source line. -/
def readSource? (line : Text) : Option Echo := do
  let (label, text) ← line.around? " |".toList
  let number ← label.trimEnd.readNat?
  return .source label.size ⟨number, (text.after? [' ']).getD text⟩

/-- Reads an echoed line. -/
def read? (line : Text) : Option Echo :=
  if startsWithDigit line then readSource? line
  else if line.contains '^' then some (.carets line)
  else none

def source? : Echo → Option (Nat × SourceLine)
  | source n line => some (n, line)
  | carets _ => none

def carets? : Echo → Option Text
  | source .. => none
  | carets line => some line

end Echo

namespace Diagnostic

/-- The marked part of the last source line. -/
def marker? (echoes : List Echo) : Option Span := do
  let (labelSize, line) ← (echoes.filterMap Echo.source?).getLast?
  Marker.span? (echoes.filterMap Echo.carets?) labelSize line.text

/-- Reads the lines of a block that follow its location line. -/
def parseBody (d : Dialect) (style : PathStyle) (location : Location) (ls : List Text) :
    Except Failure Diagnostic := do
  let echoes ← (ls.takeWhile (!d.opensError ·)).mapM fun line =>
    require (.unexpectedLine line) (Echo.read? line)
  match ls.dropWhile (!d.opensError ·) with
  | [] => throw (.missingErrorLine location.place)
  | errorLine :: rest =>
      let kind ← Kind.parse d style errorLine rest
      return ⟨location, (echoes.filterMap Echo.source?).map (·.2), marker? echoes, kind⟩

/-- Reads a block. -/
def parse (d : Dialect) (style : PathStyle) (b : Block) : Except Failure Diagnostic :=
  match b.lines with
  | [] => .error (.malformedStart 1 [])
  | first :: rest => do parseBody d style (← Location.parse d style first) rest

/-- Reads all blocks of a stream, up to the first that cannot be read. -/
def parseAll (d : Dialect) (style : PathStyle) (input : Text) :
    Except Failure (List Diagnostic) := do
  (← Block.split d input).mapM (parse d style)

end Diagnostic
end TypeReport
