import TypeReport.Panel.Table
import TypeReport.Proofs.Checked.Operations
import TypeReport.Proofs.Panel.Layout
import TypeReport.Proofs.Position.LineTable

/-! # Lines with their widths

Here a line is put together as it is written, with its escape sequences, so its width cannot
be read off it and is carried beside it.  Layout goes by the carried width alone: a cell is
filled up to the greatest width in its column.  An excerpt is drawn by a loop over the lines
of its line table, which cuts each line out of the text and moves the emphasised part to
where the line starts.  Nothing is assumed of what is drawn: a mark may be reversed, lie
beyond its text or end inside a character.

The lines come out as the pieces are painted, and the width that is carried beside each is
the number of characters in its pieces (`excerptLines_eq`, `tableLines_eq`). -/

namespace TypeReport

/-! ### Painted lines -/

/-- A line as it is written, beside the number of characters that it shows. -/
structure PaintedLine where
  text : Text
  width : Nat
deriving DecidableEq

def PaintedLine.plain (s : Text) : PaintedLine := ⟨s, s.length⟩

/-- A text painted in an ink, with colours or without. -/
def Ink.paint (colours : Bool) (ink : Ink) (s : Text) : Text := Piece.paint colours ⟨ink, s⟩

namespace Line

/-- A line made of pieces, painted. -/
def painted (colours : Bool) (l : Line) : PaintedLine := ⟨l.paint colours, l.width⟩

variable (colours : Bool)

theorem painted_plain (s : Text) : painted colours (plain s) = .plain s := by
  rw [painted, PaintedLine.plain, width, text_plain]
  exact congrArg (PaintedLine.mk · _) (List.append_nil s)

theorem painted_append (l m : Line) : painted colours (l ++ m) =
    ⟨(l.painted colours).text ++ (m.painted colours).text,
      (l.painted colours).width + (m.painted colours).width⟩ := by
  simp only [painted, width, text_append, List.length_append, PaintedLine.mk.injEq, and_true]
  exact List.flatMap_append

theorem painted_cons (ink : Ink) (s : Text) (l : Line) : painted colours (⟨ink, s⟩ :: l) =
    ⟨ink.paint colours s ++ (l.painted colours).text,
      s.length + (l.painted colours).width⟩ := by
  simp only [painted, width, text_cons, List.length_append, PaintedLine.mk.injEq, and_true]
  exact List.flatMap_cons

theorem painted_singleton (ink : Ink) (s : Text) :
    painted colours [⟨ink, s⟩] = ⟨ink.paint colours s, s.length⟩ := by
  rw [painted_cons]
  exact congrArg (PaintedLine.mk · _) (List.append_nil _)

end Line

namespace Checked

variable (colours : Bool)

/-! ### Excerpts -/

/-- The part of a span that lies in the span of a line, measured from the start of the line. -/
def within (emphasis : Option Span) (range : Span) : Checked (Option Span) :=
  match emphasis.bind (·.inter? range) with
  | none => return none
  | some hit => do return some ⟨← sub hit.start range.start, ← sub hit.stop range.start⟩

/-- What stands before a row, where its number has room for some digits. -/
def gutter (e : Excerpt) (numberWidth : Nat) (r : Row) : Text :=
  (if e.isFocused r then '>' else ' ') :: ' ' ::
    (Text.ofNat r.number).leftpad numberWidth ' ' ++ " │ ".toList

/-- The lines of a line of an excerpt.  A line that the table does not have, or that cannot be cut
out of the text, is left out. -/
def rowLines (e : Excerpt) (table : LineTable) (numberWidth line : Nat) :
    Checked (List PaintedLine) :=
  match table.range? e.text line with
  | none => return []
  | some range =>
      match range.slice? e.text with
      | none => return []
      | some source => do
          let row : Row := ⟨← sub (e.startLine + line) 1, range.start, source⟩
          let gutter := gutter e numberWidth row
          let painted := (if e.isFocused row then Ink.bold else .dim).paint colours gutter
          let width := gutter.length + source.length
          match (← within e.emphasis range).bind (·.cut? source) with
          | none => return [⟨painted ++ source, width⟩]
          | some (before, inside, behind) =>
              return ⟨painted ++ (before ++ Ink.emphasis.paint colours inside ++ behind), width⟩ ::
                if colours then []
                else [.plain (List.replicate (gutter.length + before.length) ' ' ++
                  List.replicate inside.length '^')]

def excerptLines (e : Excerpt) : Checked (List PaintedLine) := do
  let table := LineTable.ofText e.text
  let numberWidth := (Text.ofNat (← sub (e.startLine + table.lineCount) 1)).length
  let lines ← (List.range' 1 table.lineCount).mapM (rowLines colours e table numberWidth)
  return lines.flatten

theorem within_eq (emphasis : Option Span) (range : Span) :
    within emphasis range =
      some ((emphasis.bind (·.inter? range)).map (·.rebase range.start)) := by
  unfold within
  cases h : emphasis.bind (·.inter? range) with
  | none => rfl
  | some hit =>
      obtain ⟨r, -, hr⟩ := Option.bind_eq_some_iff.1 h
      obtain ⟨hlt, rfl⟩ := Span.inter?_eq_some_iff.1 hr
      have hstart : range.start ≤ max r.start range.start := Nat.le_max_right _ _
      have hstop : range.start ≤ min r.stop range.stop := by omega
      simp only [sub_eq hstart, sub_eq hstop, Option.bind_eq_bind, Option.bind_some]
      rfl

/-- A row is as wide as its gutter and its text, whatever part of the text is emphasised. -/
theorem painted_hit {before inside behind source : Text} (h : before ++ inside ++ behind = source)
    (ink : Ink) (gutter : Text) :
    Line.painted colours
        [⟨ink, gutter⟩, ⟨.plain, before⟩, ⟨.emphasis, inside⟩, ⟨.plain, behind⟩] =
      ⟨ink.paint colours gutter ++ (before ++ Ink.emphasis.paint colours inside ++ behind),
        gutter.length + source.length⟩ := by
  have hplain : Line.painted colours [⟨.plain, behind⟩] = .plain behind :=
    Line.painted_plain colours behind
  have hbefore : Ink.plain.paint colours before = before := rfl
  rw [Line.painted_cons, Line.painted_cons, Line.painted_cons, hplain, hbefore, ← h,
    List.length_append, List.length_append, List.append_assoc, Nat.add_assoc]
  rfl

theorem rowLines_eq {e : Excerpt} {k : Nat} {r : Row} (h : e.rows[k]? = some r) :
    rowLines colours e (LineTable.ofText e.text) e.numberWidth (1 + k) =
      some ((e.rowLines (!colours) r).map (Line.painted colours)) := by
  have hrange : (LineTable.ofText e.text).range? e.text (1 + k) = some r.span := by
    rw [Nat.add_comm, LineTable.range?_ofText e.text e.startLine]
    exact congrArg (Option.map Row.span) h
  have hslice : r.span.slice? e.text = some r.text :=
    Excerpt.slice?_span_of_mem_rowsFrom (List.mem_of_getElem? h)
  have hnumber : sub (e.startLine + (1 + k)) 1 = some r.number := by
    rw [sub_eq (by omega), Excerpt.number_rowsFrom h]
    congr 1
    omega
  have hhit : ((e.emphasis.bind (·.inter? r.span)).map (·.rebase r.span.start)).bind
      (·.cut? r.text) = r.hit? e.emphasis := by
    unfold Row.hit?
    cases e.emphasis with
    | none => rfl
    | some emphasis => exact Option.bind_map ..
  have hgutter : gutter e e.numberWidth r = e.gutter r := rfl
  have hrow : (⟨r.number, r.span.start, r.text⟩ : Row) = r := rfl
  simp only [rowLines, hrange, hslice, hnumber, within_eq, Option.bind_eq_bind, Option.bind_some,
    hhit, hrow, hgutter]
  unfold Excerpt.rowLines
  cases hparts : r.hit? e.emphasis with
  | none =>
      rw [List.map_singleton, Excerpt.gutterPiece, Line.painted_cons, Line.painted_plain]
      rfl
  | some parts =>
      obtain ⟨before, inside, behind⟩ := parts
      have hline := painted_hit colours (Row.append_of_hit? hparts)
        (if e.isFocused r then .bold else .dim) (e.gutter r)
      have hcarets : Line.painted colours (e.caretLine r before inside) = .plain _ :=
        Line.painted_plain colours _
      rw [List.map_cons, Excerpt.gutterPiece, hline]
      cases colours with
      | true => rfl
      | false =>
          rw [Bool.not_false, if_pos rfl, List.map_singleton, hcarets]
          rfl

theorem excerptLines_eq (e : Excerpt) :
    excerptLines colours e = some ((e.lines (!colours)).map (Line.painted colours)) := by
  have hcount : (LineTable.ofText e.text).lineCount = e.rows.length :=
    LineTable.lineCount_ofText e.text e.startLine
  have hpos : 1 ≤ e.startLine + e.rows.length := by
    have hlines : 0 < (e.text.splitOn '\n').length :=
      List.length_pos_of_ne_nil (List.splitOn_ne_nil _ _)
    rw [Excerpt.rows, Excerpt.length_rowsFrom]
    omega
  have hrows : (List.range' 1 e.rows.length).mapM
      (rowLines colours e (LineTable.ofText e.text) e.numberWidth) =
        some (e.rows.map fun r => (e.rowLines (!colours) r).map (Line.painted colours)) :=
    mapM_range'_eq_some_map fun k r => rowLines_eq colours
  simp only [excerptLines, hcount, sub_eq hpos, Option.bind_eq_bind, Option.bind_some]
  rw [← Excerpt.numberWidth, hrows, Excerpt.lines, List.map_flatMap]
  rfl

/-! ### Tables -/

/-- The width of a column with a title. -/
def columnWidth (title : Text) (column : List PaintedLine) : Nat :=
  (column.map (·.width) ++ [title.length]).foldr max 0

def columnTitle (title : Text) : PaintedLine := ⟨Ink.bold.paint colours title, title.length⟩

/-- A line of a table, made of a line of each column, of which the left one has a width. -/
def beside (leftWidth : Nat) (left right : PaintedLine) : Checked PaintedLine := do
  let padding := List.replicate (← sub leftWidth left.width) ' '
  return ⟨left.text ++ padding ++ " │ ".toList ++ right.text, leftWidth + 3 + right.width⟩

/-- The lines of a pair of cells. -/
def cellLines (leftWidth : Nat) (cell : List PaintedLine × List PaintedLine) :
    Checked (List PaintedLine) :=
  (List.range (max cell.1.length cell.2.length)).mapM fun i =>
    beside leftWidth (cell.1[i]?.getD ⟨[], 0⟩) (cell.2[i]?.getD ⟨[], 0⟩)

def tableLines (leftTitle rightTitle : Text)
    (cells : List (List PaintedLine × List PaintedLine)) : Checked (List PaintedLine) := do
  let leftWidth := columnWidth leftTitle (cells.flatMap (·.1))
  let rightWidth := columnWidth rightTitle (cells.flatMap (·.2))
  let rule : Text := List.replicate (leftWidth + 1) '─' ++
    '┼' :: List.replicate (rightWidth + 1) '─'
  let titles ← beside leftWidth (columnTitle colours leftTitle) (columnTitle colours rightTitle)
  let cells ← cells.mapM (cellLines leftWidth)
  return titles :: cells.flatMap (⟨Ink.dim.paint colours rule, rule.length⟩ :: ·)

/-- The lines of a pair of cells, painted. -/
def paintedCell (cell : List Line × List Line) : List PaintedLine × List PaintedLine :=
  (cell.1.map (Line.painted colours), cell.2.map (Line.painted colours))

theorem columnWidth_eq (title : Text) (column : List Line) :
    columnWidth title (column.map (Line.painted colours)) =
      max (Table.widest column) title.length := by
  have hwidths : (column.map (Line.painted colours)).map (·.width) = column.map Line.width :=
    List.map_map
  rw [columnWidth, hwidths, Table.widest]
  induction column.map Line.width with
  | nil => exact Nat.max_comm title.length 0
  | cons n ns ih => rw [List.cons_append, List.foldr_cons, List.foldr_cons, ih, Nat.max_assoc]

/-- The width of the column that is on one side of some cells. -/
theorem columnWidth_cells {side : List PaintedLine × List PaintedLine → List PaintedLine}
    {side' : List Line × List Line → List Line}
    (h : ∀ cell, side (paintedCell colours cell) = (side' cell).map (Line.painted colours))
    (title : Text) (cells : List (List Line × List Line)) :
    columnWidth title ((cells.map (paintedCell colours)).flatMap side) =
      max (Table.widest (cells.flatMap side')) title.length := by
  rw [← columnWidth_eq colours, List.flatMap_map, List.map_flatMap]
  simp only [h]

/-- A line that fits its column is filled up to the width of the column. -/
theorem beside_eq {t : Table} {left : Line} (h : left.width ≤ t.leftWidth) (right : Line) :
    beside t.leftWidth (left.painted colours) (right.painted colours) =
      some ((t.beside left right).painted colours) := by
  have hsub : sub t.leftWidth (left.painted colours).width = some (t.leftWidth - left.width) :=
    sub_eq h
  have hwidth : t.leftWidth + 3 =
      left.width + (t.leftWidth - left.width) + " │ ".toList.length := by
    have hbar : " │ ".toList.length = 3 := by decide
    omega
  rw [beside, hsub, Table.beside, Line.fill, Line.painted_append, Line.painted_append,
    Line.painted_append, Line.painted_plain, Line.painted_plain, hwidth]
  simp only [Option.bind_eq_bind, Option.bind_some, PaintedLine.plain, List.length_replicate]
  rfl

theorem cellLines_eq {t : Table} {cell : List Line × List Line} (h : cell ∈ t.cells) :
    cellLines t.leftWidth (paintedCell colours cell) =
      some ((t.cellLines cell).map (Line.painted colours)) := by
  have hmap := congrArg (List.map (Line.painted colours))
    (map_range_max (fun left right => t.beside (left.getD []) (right.getD [])) cell.1 cell.2)
  rw [List.map_map] at hmap
  have hgetD (ls : List Line) (i : Nat) : (ls.map (Line.painted colours))[i]?.getD ⟨[], 0⟩ =
      (ls[i]?.getD []).painted colours := by
    rw [List.getElem?_map]
    cases ls[i]? <;> rfl
  simp only [cellLines, paintedCell, List.length_map, hgetD]
  rw [mapM_eq_some_map fun i _ => beside_eq colours (Table.width_le_leftWidth h i) _]
  exact congrArg some hmap

theorem tableLines_eq (t : Table) :
    tableLines colours t.leftTitle t.rightTitle (t.cells.map (paintedCell colours)) =
      some (t.lines.map (Line.painted colours)) := by
  have htitle (s : Text) : columnTitle colours s = Line.painted colours [⟨.bold, s⟩] :=
    (Line.painted_singleton colours .bold s).symm
  have hleft : columnWidth t.leftTitle ((t.cells.map (paintedCell colours)).flatMap (·.1)) =
      t.leftWidth := columnWidth_cells colours (fun _ => rfl) t.leftTitle t.cells
  have hright : columnWidth t.rightTitle ((t.cells.map (paintedCell colours)).flatMap (·.2)) =
      t.rightWidth := columnWidth_cells colours (fun _ => rfl) t.rightTitle t.cells
  have hfits : Line.width [⟨.bold, t.leftTitle⟩] ≤ t.leftWidth := by
    rw [Line.width, Line.text, List.flatMap_singleton]
    exact Nat.le_max_right _ _
  have hcells : (t.cells.map (paintedCell colours)).mapM (cellLines t.leftWidth) =
      some (t.cells.map fun cell => (t.cellLines cell).map (Line.painted colours)) := by
    rw [List.mapM_map]
    exact mapM_eq_some_map fun cell => cellLines_eq colours
  simp only [tableLines, hleft, hright, htitle, beside_eq colours hfits, hcells,
    Option.bind_eq_bind, Option.bind_some]
  rw [Table.lines, List.map_cons, List.map_flatMap, List.flatMap_map]
  simp only [List.map_cons, Table.rule, Line.painted_singleton]
  rfl

end Checked
end TypeReport
