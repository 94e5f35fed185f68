import TypeReport.Span

/-! # Lines and columns

A position is a line and a column, both counted from one; columns count
characters.  The position of an offset is read off the part of the text before
the greatest character boundary that does not lie beyond it: its line feeds give
the line and the characters after the last of them give the column. -/

namespace TypeReport

/-- A line and a column, both counted from one. -/
structure Position where
  line : Nat
  column : Nat
deriving DecidableEq, Repr

namespace Position

/-- The line that an offset of a text lies on. -/
def lineOfOffset (s : Text) (n : Nat) : Nat := (s.upTo n).count '\n' + 1

/-- The position of an offset of a text. -/
def ofOffset (s : Text) (n : Nat) : Position :=
  ⟨lineOfOffset s n, ((s.upTo n).reverse.takeWhile (· ≠ '\n')).length + 1⟩

/-- The positions of the two ends of a span. -/
def ofSpan (s : Text) (r : Span) : Position × Position := (ofOffset s r.start, ofOffset s r.stop)

/-- An offset inside a character counts as the start of the character. -/
example : ofOffset "a\né".toList 3 = ⟨2, 1⟩ ∧ ofOffset "a\né".toList 9 = ⟨2, 2⟩ := by decide

end Position
end TypeReport
