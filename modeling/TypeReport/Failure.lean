import TypeReport.Text.Numeral

/-! # Why a stream cannot be read

A failure is a cause together with the piece of the stream that shows it.  Each
cause has a short stable `kind` for tools and a `message` for people; no other
function puts a failure into words. -/

namespace TypeReport

/-- What is wrong with a location line, in the order in which its parts are read; any other reason
is in the words of whoever found it. -/
inductive LocationFault where
  | missingOpening
  | unterminatedPath
  | missingColon
  | fieldCount
  | lineRange
  | lineNumber
  | lineKeyword
  | reversedLines
  | charactersKeyword
  | characterRange
  | other (reason : Text)
deriving DecidableEq

def LocationFault.reason : LocationFault → Text
  | missingOpening => "missing `File \"` prefix".toList
  | unterminatedPath => "unterminated path".toList
  | missingColon => "missing trailing colon".toList
  | fieldCount => "expected 2 or 3 comma-separated fields".toList
  | lineRange => "invalid line range".toList
  | lineNumber => "invalid line number".toList
  | lineKeyword => "missing `line`/`lines` keyword".toList
  | reversedLines => "line range ends before it starts".toList
  | charactersKeyword => "missing `characters` keyword".toList
  | characterRange => "invalid character range".toList
  | other reason => reason

/-- Why a stream, or one of its blocks, cannot be read.  The line that stands before the first block
is counted from one; a block without the body of an error is told by its place. -/
inductive Failure where
  | malformedLocation (line : Text) (fault : LocationFault)
  | malformedStart (number : Nat) (line : Text)
  | unexpectedLine (line : Text)
  | missingErrorLine (place : Text)
  | unrecognizedConnective (chunk : Text)
deriving DecidableEq

namespace Failure

/-- Short stable name of the kind of a failure. -/
def kind : Failure → Text
  | malformedLocation .. => "malformed_location_line".toList
  | malformedStart .. => "malformed_block_start".toList
  | unexpectedLine .. => "unexpected_line_in_block".toList
  | missingErrorLine .. => "missing_error_line".toList
  | unrecognizedConnective .. => "unrecognized_connective".toList

def message : Failure → Text
  | malformedLocation line fault =>
      "malformed location line `".toList ++ line ++ "`: ".toList ++ fault.reason
  | malformedStart number line =>
      "expected a `File \"...\"` line at line ".toList ++ Text.ofNat number ++ ", found `".toList ++
        line ++ "`".toList
  | unexpectedLine line => "unexpected line in error block: `".toList ++ line ++ "`".toList
  | missingErrorLine place => "error block at ".toList ++ place ++ " has no `Error:` line".toList
  | unrecognizedConnective chunk =>
      "could not split mismatch into implementation and interface: `".toList ++ chunk ++
        "`".toList

end Failure

/-- The value of an option, or an error that says what is missing. -/
def require {ε α : Type} (e : ε) : Option α → Except ε α
  | some a => .ok a
  | none => .error e

end TypeReport
