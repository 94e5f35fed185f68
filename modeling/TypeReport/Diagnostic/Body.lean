import TypeReport.Backtrace.Parser
import TypeReport.Diagnostic.Basic
import TypeReport.Location.Parser
import TypeReport.Text.Lines

/-! # The body of an error

    Error: The implementation foo.ml
           does not match the interface foo.cmi:
           Values do not match: ...
           File "foo.mli", line 1, characters 0-14: Expected declaration
           File "foo.ml", line 1, characters 4-5: Actual declaration

The start of the description decides the kind.  The description of an interface
mismatch runs to the first line with a colon.  What follows is context up to the
first boundary line, then the backtrace up to the first reference; of the
references only the first two count, the expected location and the actual one. -/

namespace TypeReport.Kind

/-- The first line of the body without its opening. -/
def description (d : Dialect) (errorLine : Text) : Text :=
  Text.trim ((errorLine.after? d.errorOpening).getD errorLine)

def hasColon (line : Text) : Bool := line.contains ':'

/-- The lines up to and including the first with a colon. -/
def throughColon (ls : List Text) : List Text :=
  ls.takeWhile (!hasColon ·) ++ (ls.dropWhile (!hasColon ·)).take 1

/-- The lines behind the first with a colon. -/
def pastColon (ls : List Text) : List Text := (ls.dropWhile (!hasColon ·)).drop 1

theorem throughColon_append_pastColon (ls : List Text) : throughColon ls ++ pastColon ls = ls := by
  rw [throughColon, pastColon, List.append_assoc, List.take_append_drop,
    List.takeWhile_append_dropWhile]

/-- Reads the lines that follow the description of an interface mismatch. -/
def parseInterface (d : Dialect) (style : PathStyle) (summary : Text) (ls : List Text) :
    Except Failure Kind := do
  let body := ls.takeWhile (!d.isReference ·)
  let references := ls.filter d.isReference
  let backtrace ← Backtrace.parse d (body.dropWhile (!d.isBoundary ·))
  let expected ← references[0]?.mapM (Location.parse d style)
  let actual ← references[1]?.mapM (Location.parse d style)
  return .interfaceMismatch summary actual expected backtrace

/-- Reads the body of an error from its first line and the lines that follow. -/
def parse (d : Dialect) (style : PathStyle) (errorLine : Text) (rest : List Text) :
    Except Failure Kind :=
  let description := description d errorLine
  if description.startsWith d.expressionOpening then do
    return .expressionMismatch description (← Backtrace.parse d (description :: rest))
  else if description.startsWith d.interfaceOpening then
    if hasColon description then parseInterface d style description rest
    else
      let more := (throughColon rest).flatMap fun line => ' ' :: line.trim
      parseInterface d style (description ++ more) (pastColon rest)
  else
    .ok (.plain (Text.trimEnd (Text.joinLines (errorLine :: rest))))

end TypeReport.Kind
