import TypeReport.Runs
import TypeReport.Dialect
import TypeReport.Backtrace.Basic
import TypeReport.Failure

/-! # Chunks

The lines of a mismatch are cut into chunks in front of each boundary line, after
the lines that belong to no chunk have been dropped.  The lines before the first
boundary are a chunk too, and a blank chunk is none.  A chunk names its two sides
around a connective, with a label in front of the first. -/

namespace TypeReport.Chunk

/-- Lines put together, with a line feed after each. -/
def ofLines (ls : List Text) : Text := ls.flatMap (· ++ ['\n'])

/-- The chunks of a list of lines. -/
def split (d : Dialect) (ls : List Text) : List Text :=
  let cut := Runs.cut d.isBoundary (ls.filter (!d.isSkipped ·))
  ((cut.lead :: cut.runs).map ofLines).filter (!Text.isBlank ·)

/-- The two sides that a chunk names. -/
def sides (d : Dialect) (chunk : Text) : Except Failure Sides :=
  match d.atConnective? chunk with
  | some (before, _, behind) => .ok ⟨d.stripLabel before, behind.trim⟩
  | none => .error (.unrecognizedConnective chunk.trim)

example :
    split .ocaml4 ["a".toList, "Types for method m".toList, "Type t".toList, "b".toList] =
      ["a\n".toList, "Type t\nb\n".toList] := by decide

end TypeReport.Chunk
