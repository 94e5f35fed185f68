import TypeReport.Runs
import TypeReport.Text.Lines
import TypeReport.Dialect
import TypeReport.Failure

/-! # Blocks

The output of a compiler is a stream of blocks, one for each location line in the
first column.  A block runs to the next such line and keeps its text unchanged.
Blank lines may stand before the first block; anything else there means that the
stream is not what it should be, and nothing of it is read. -/

namespace TypeReport

/-- The text of one error, line ends included, and its place in the stream, counted from zero. -/
structure Block where
  index : Nat
  text : Text
deriving DecidableEq

namespace Block

def lines (b : Block) : List Text := b.text.lines

/-- The line that opens a block. -/
def firstLine? (b : Block) : Option Text := b.lines.head?

/-- The first line that is not blank, and its number, counted from one. -/
def stray? (ls : List Text) : Option (Text × Nat) := (ls.zipIdx 1).find? (!·.1.isBlank)

/-- The blocks of texts in order. -/
def number (texts : List Text) : List Block := texts.mapIdx Block.mk

/-- Splits a stream into its blocks. -/
def split (d : Dialect) (input : Text) : Except Failure (List Block) :=
  let cut := Runs.cut d.opensBlock input.rawLines
  match stray? cut.lead with
  | some (line, n) => .error (.malformedStart n line.trimEnd)
  | none => .ok (number (cut.runs.map List.flatten))

end Block
end TypeReport
