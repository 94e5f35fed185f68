import TypeReport.Panel.Line
import TypeReport.Span
import TypeReport.Text.Numeral

/-! # Excerpts

An excerpt is a text with numbered lines, of which a span may be emphasised and
one line may be in focus.  Each line becomes a row with its number in a gutter
before it, and the row in focus has a mark in front.  The emphasised part of the
excerpt is cut at the ends of its rows, and a row that meets it shows its share in
the emphasis ink and, when `carets` are asked for, underlines it on a line of its
own. -/

namespace TypeReport

/-- A text with numbered lines, of which a part is emphasised and a line draws attention. -/
structure Excerpt where
  startLine : Nat
  text : Text
  emphasis : Option Span
  focusLine : Option Nat
deriving DecidableEq

/-- A line of an excerpt, and the offset in the excerpt at which it starts. -/
structure Row where
  number : Nat
  offset : Nat
  text : Text

namespace Row

/-- The span of a row in its excerpt. -/
def span (r : Row) : Span := ⟨r.offset, r.offset + r.text.size⟩

/-- The parts of a row before, in and after the emphasised part of its excerpt. -/
def hit? (emphasis : Option Span) (r : Row) : Option (Text × Text × Text) := do
  let common ← (← emphasis).inter? r.span
  (common.rebase r.offset).cut? r.text

end Row

namespace Excerpt

/-- The rows of consecutive lines, from a number and an offset on. -/
def rowsFrom : Nat → Nat → List Text → List Row
  | _, _, [] => []
  | number, offset, l :: ls =>
      ⟨number, offset, l⟩ :: rowsFrom (number + 1) (offset + Text.size l + 1) ls

def rows (e : Excerpt) : List Row := rowsFrom e.startLine 0 (e.text.splitOn '\n')

def isFocused (e : Excerpt) (r : Row) : Bool := e.focusLine = some r.number

/-- Number of digits that the gutter has room for: those of the last row. -/
def numberWidth (e : Excerpt) : Nat :=
  (Text.ofNat (e.startLine + e.rows.length - 1)).length

/-- What stands before a row. -/
def gutter (e : Excerpt) (r : Row) : Text :=
  (if e.isFocused r then '>' else ' ') :: ' ' ::
    (Text.ofNat r.number).leftpad e.numberWidth ' ' ++ " │ ".toList

def gutterPiece (e : Excerpt) (r : Row) : Piece :=
  ⟨if e.isFocused r then .bold else .dim, e.gutter r⟩

/-- The line under the part `inside` of a row, which stands behind the part `before`. -/
def caretLine (e : Excerpt) (r : Row) (before inside : Text) : Line :=
  Line.plain (List.replicate ((e.gutter r).length + before.length) ' ' ++
    List.replicate inside.length '^')

def rowLines (carets : Bool) (e : Excerpt) (r : Row) : List Line :=
  match r.hit? e.emphasis with
  | none => [e.gutterPiece r :: Line.plain r.text]
  | some (before, inside, behind) =>
      [e.gutterPiece r, ⟨.plain, before⟩, ⟨.emphasis, inside⟩, ⟨.plain, behind⟩] ::
        if carets then [e.caretLine r before inside] else []

def lines (carets : Bool) (e : Excerpt) : List Line := e.rows.flatMap (e.rowLines carets)

end Excerpt
end TypeReport
