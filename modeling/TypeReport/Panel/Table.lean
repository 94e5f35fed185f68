import TypeReport.Panel.Excerpt

/-! # Tables

A table shows pairs of excerpts side by side, a rule above each pair and the
titles on top.  A column is as wide as its widest line or its title, so that the
bars between the columns stand below one another. -/

namespace TypeReport

/-- Two columns of lines, in cells side by side. -/
structure Table where
  leftTitle : Text
  rightTitle : Text
  cells : List (List Line × List Line)

namespace Table

/-- The greatest of some widths, and zero if there is none. -/
def widest (ls : List Line) : Nat := (ls.map Line.width).foldr max 0

def leftWidth (t : Table) : Nat := max (widest (t.cells.flatMap (·.1))) t.leftTitle.length

def rightWidth (t : Table) : Nat := max (widest (t.cells.flatMap (·.2))) t.rightTitle.length

/-- A line of the table, made of a line of each column. -/
def beside (t : Table) (left right : Line) : Line :=
  left.fill t.leftWidth ++ Line.plain " │ ".toList ++ right

def titleLine (t : Table) : Line := t.beside [⟨.bold, t.leftTitle⟩] [⟨.bold, t.rightTitle⟩]

/-- The rule above a pair of cells. -/
def rule (t : Table) : Line :=
  [⟨.dim, List.replicate (t.leftWidth + 1) '─' ++ '┼' :: List.replicate (t.rightWidth + 1) '─'⟩]

/-- The lines of a pair of cells, the shorter of which is filled up with empty lines. -/
def cellLines (t : Table) (cell : List Line × List Line) : List Line :=
  List.zipWithAll (fun left right => t.beside (left.getD []) (right.getD [])) cell.1 cell.2

def lines (t : Table) : List Line :=
  t.titleLine :: t.cells.flatMap fun cell => t.rule :: t.cellLines cell

end Table
end TypeReport
