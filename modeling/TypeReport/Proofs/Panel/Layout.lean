import Mathlib.Data.List.MinMax
import TypeReport.Panel.Basic
import TypeReport.Proofs.Panel.Paint
import TypeReport.Report.Unmarked

/-! # Layout does not look at inks

A row of an excerpt shows its number and its text, whatever part of it is emphasised
(`text_rowLines`), and every layout on top of that measures and joins the texts of its
lines.  So the sections of a diagnostic have the same lines with marks as without them,
up to the inks (`map_text_body_unmarked`), once no carets are asked for. -/

namespace TypeReport

/-! ### Excerpts -/

def Excerpt.unmarked (e : Excerpt) : Excerpt := { e with emphasis := none }

namespace Row

theorem append_of_hit? {emphasis : Option Span} {r : Row} {a m b : Text}
    (h : r.hit? emphasis = some (a, m, b)) : a ++ m ++ b = r.text := by
  simp only [hit?, Option.bind_eq_bind, Option.bind_eq_some_iff] at h
  obtain ⟨_, _, _, _, hcut⟩ := h
  exact (Span.append_of_cut? hcut).1

end Row

namespace Excerpt

/-- What a row shows without carets. -/
def rowText (e : Excerpt) (r : Row) : Text := e.gutter r ++ r.text

theorem text_rowLines (e : Excerpt) (r : Row) :
    (e.rowLines false r).map Line.text = [e.rowText r] := by
  unfold rowLines
  split
  case h_1 =>
    rw [List.map_singleton, Line.text_cons, Line.text_plain]
    rfl
  case h_2 before inside behind hhit =>
    have hrow := Row.append_of_hit? hhit
    simp only [Bool.false_eq_true, if_false, List.map_cons, List.map_nil, Line.text_cons, rowText,
      ← hrow, List.append_assoc]
    rw [Line.text, List.flatMap_nil, List.append_nil]
    rfl

/-- A row is shown on one line, or a line of carets follows that starts behind the gutter. -/
theorem map_text_rowLines_cases (carets : Bool) (e : Excerpt) (r : Row) :
    (e.rowLines carets r).map Line.text = [e.rowText r] ∨
      ∃ m n, (e.rowLines carets r).map Line.text = [e.rowText r,
        List.replicate ((e.gutter r).length + m) ' ' ++ List.replicate n '^'] := by
  have hrow := e.text_rowLines r
  cases carets with
  | false => exact .inl hrow
  | true =>
      unfold rowLines at hrow ⊢
      cases hhit : r.hit? e.emphasis with
      | none =>
          rw [hhit] at hrow
          exact .inl hrow
      | some parts =>
          obtain ⟨before, inside, behind⟩ := parts
          rw [hhit] at hrow
          refine .inr ⟨before.length, inside.length, ?_⟩
          have hcarets := Line.text_plain
            (List.replicate ((e.gutter r).length + before.length) ' ' ++
              List.replicate inside.length '^')
          dsimp only at hrow ⊢
          rw [if_neg Bool.false_ne_true, List.map_singleton, List.singleton_inj] at hrow
          rw [if_pos rfl, List.map_cons, List.map_singleton, hrow, caretLine, hcarets]

/-- A line of an excerpt shows a row, or carets. -/
theorem text_cases_of_mem_lines {carets : Bool} {e : Excerpt} {l : Line} (h : l ∈ e.lines carets) :
    ∃ r ∈ e.rows, l.text = e.rowText r ∨
      ∃ m n, l.text = List.replicate ((e.gutter r).length + m) ' ' ++ List.replicate n '^' := by
  obtain ⟨r, hr, hl⟩ := List.mem_flatMap.1 h
  have htext := List.mem_map_of_mem (f := Line.text) hl
  refine ⟨r, hr, ?_⟩
  rcases map_text_rowLines_cases carets e r with hlines | ⟨m, n, hlines⟩
  · rw [hlines, List.mem_singleton] at htext
    exact .inl htext
  · rw [hlines, List.mem_cons, List.mem_singleton] at htext
    exact htext.imp_right fun h => ⟨m, n, h⟩

theorem map_text_lines (e : Excerpt) : (e.lines false).map Line.text = e.rows.map e.rowText := by
  rw [lines, List.map_flatMap]
  simp only [text_rowLines]
  exact List.map_eq_flatMap.symm

theorem map_text_lines_unmarked (carets : Bool) (e : Excerpt) :
    (e.unmarked.lines carets).map Line.text = (e.lines false).map Line.text := by
  -- Without an emphasised part there is no row to put carets under.
  have hlines : e.unmarked.lines carets = e.unmarked.lines false := rfl
  rw [hlines, map_text_lines, map_text_lines]
  rfl

end Excerpt

/-! ### Tables -/

theorem map_range_max {α β γ : Type} (f : Option α → Option β → γ) (as : List α) (bs : List β) :
    (List.range (max as.length bs.length)).map (fun i => f as[i]? bs[i]?) =
      List.zipWithAll f as bs := by
  refine List.ext_getElem? fun i => ?_
  rw [List.getElem?_map, List.getElem?_zipWithAll]
  by_cases hi : i < max as.length bs.length
  · rw [List.getElem?_range hi, Option.map_some]
    rcases Nat.lt_or_ge i as.length with ha | ha
    · rw [List.getElem?_eq_getElem ha]
    · have hb : i < bs.length := by omega
      rw [List.getElem?_eq_none ha, List.getElem?_eq_getElem hb]
  · have ha : as.length ≤ i := by omega
    have hb : bs.length ≤ i := by omega
    have hrange : (List.range (max as.length bs.length)).length ≤ i := by simpa using hi
    rw [List.getElem?_eq_none ha, List.getElem?_eq_none hb, List.getElem?_eq_none hrange]
    rfl

theorem Line.text_fill (n : Nat) (l : Line) :
    (l.fill n).text = l.text ++ List.replicate (n - l.text.length) ' ' := by
  rw [fill, text_append, text_plain, width]

namespace Table

theorem widest_eq (ls : List Line) :
    widest ls = ((ls.map Line.text).map List.length).foldr max 0 := by
  rw [List.map_map]
  rfl

/-- The texts of a pair of cells. -/
def cellTexts (cell : List Line × List Line) : List Text × List Text :=
  (cell.1.map Line.text, cell.2.map Line.text)

variable {t u : Table}

/-- Two tables that show the same texts. -/
structure SameTexts (t u : Table) : Prop where
  leftTitle : t.leftTitle = u.leftTitle
  rightTitle : t.rightTitle = u.rightTitle
  cells : t.cells.map cellTexts = u.cells.map cellTexts

theorem SameTexts.leftWidth_eq (h : SameTexts t u) : t.leftWidth = u.leftWidth := by
  have hcells (v : Table) : (v.cells.flatMap (·.1)).map Line.text =
      (v.cells.map cellTexts).flatMap (·.1) := by
    rw [List.map_flatMap, List.flatMap_map]
    rfl
  rw [leftWidth, leftWidth, widest_eq, widest_eq, hcells, hcells, h.cells, h.leftTitle]

theorem SameTexts.rightWidth_eq (h : SameTexts t u) : t.rightWidth = u.rightWidth := by
  have hcells (v : Table) : (v.cells.flatMap (·.2)).map Line.text =
      (v.cells.map cellTexts).flatMap (·.2) := by
    rw [List.map_flatMap, List.flatMap_map]
    rfl
  rw [rightWidth, rightWidth, widest_eq, widest_eq, hcells, hcells, h.cells, h.rightTitle]

theorem width_le_leftWidth {t : Table} {cell : List Line × List Line} (hcell : cell ∈ t.cells)
    (i : Nat) : Line.width (cell.1[i]?.getD []) ≤ t.leftWidth := by
  cases hl : cell.1[i]? with
  | none => exact Nat.zero_le _
  | some l =>
      have hmem : l ∈ t.cells.flatMap (·.1) :=
        List.mem_flatMap.2 ⟨cell, hcell, List.mem_of_getElem? hl⟩
      have hwidest : l.width ≤ widest (t.cells.flatMap (·.1)) :=
        List.le_max_of_le' 0 (List.mem_map_of_mem hmem) (Nat.le_refl _)
      exact hwidest.trans (Nat.le_max_left _ _)

theorem text_beside (t : Table) (left right : Line) :
    (t.beside left right).text = left.text ++
      List.replicate (t.leftWidth - left.text.length) ' ' ++ " │ ".toList ++ right.text := by
  rw [beside, Line.text_append, Line.text_append, Line.text_fill, Line.text_plain]

/-- The texts of a pair of cells side by side, in a table whose left column has a width. -/
def besideTexts (leftWidth : Nat) (cell : List Text × List Text) : List Text :=
  List.zipWithAll (fun left right => left.getD [] ++
    List.replicate (leftWidth - (left.getD []).length) ' ' ++ " │ ".toList ++ right.getD [])
    cell.1 cell.2

theorem map_text_cellLines (t : Table) (cell : List Line × List Line) :
    (t.cellLines cell).map Line.text = besideTexts t.leftWidth (cellTexts cell) := by
  have hgetD (l : Option Line) : (l.getD []).text = (Line.text <$> l).getD [] := by
    cases l <;> rfl
  rw [cellLines, List.map_zipWithAll, besideTexts, cellTexts, List.zipWithAll_map]
  simp only [text_beside, hgetD]

theorem SameTexts.map_text_lines (h : SameTexts t u) :
    t.lines.map Line.text = u.lines.map Line.text := by
  have hcells (v : Table) : (v.cells.flatMap fun cell => v.rule :: v.cellLines cell).map Line.text =
      (v.cells.map cellTexts).flatMap fun cell =>
        v.rule.text :: besideTexts v.leftWidth cell := by
    rw [List.map_flatMap, List.flatMap_map]
    simp only [List.map_cons, map_text_cellLines]
  have htitle : t.titleLine.text = u.titleLine.text := by
    rw [titleLine, titleLine, text_beside, text_beside, h.leftWidth_eq, h.leftTitle, h.rightTitle]
  have hrule : t.rule = u.rule := by
    rw [rule, rule, h.leftWidth_eq, h.rightWidth_eq]
  rw [lines, lines, List.map_cons, List.map_cons, hcells, hcells, htitle, hrule, h.leftWidth_eq,
    h.cells]

end Table

/-! ### Sections -/

def Section.unmarked : Section → Section
  | excerpt e => excerpt e.unmarked
  | columns leftTitle rightTitle rows =>
      columns leftTitle rightTitle (rows.map fun row => (row.1.unmarked, row.2.unmarked))
  | s => s

theorem Section.map_text_lines_unmarked (carets : Bool) (s : Section) :
    (s.unmarked.lines carets).map Line.text = (s.lines false).map Line.text := by
  cases s with
  | excerpt e => exact e.map_text_lines_unmarked carets
  | text s => rfl
  | notice title body => rfl
  | columns leftTitle rightTitle rows =>
      refine Table.SameTexts.map_text_lines ⟨rfl, rfl, ?_⟩
      simp only [List.map_map]
      refine List.map_congr_left fun row _ => ?_
      simp only [Function.comp_apply, Table.cellTexts, Excerpt.map_text_lines_unmarked]

namespace Diagnostic

theorem backtraceSections_unmarked (leftTitle rightTitle : Text) (leftLine rightLine : Nat)
    (b : Backtrace) :
    backtraceSections leftTitle rightTitle leftLine rightLine b.unmarked =
      (backtraceSections leftTitle rightTitle leftLine rightLine b).map Section.unmarked := by
  obtain ⟨frames, notice⟩ := b
  cases notice <;> cases frames <;> simp [backtraceSections, Backtrace.unmarked, Section.unmarked,
    frameRow, Frame.unmarked, Excerpt.unmarked]

theorem sections_unmarked (e : Diagnostic) :
    e.unmarked.sections = e.sections.map Section.unmarked := by
  have hexcerpt : e.unmarked.sourceExcerpt? = e.sourceExcerpt?.map Excerpt.unmarked := by
    rw [sourceExcerpt?, sourceExcerpt?, Option.map_map]
    rfl
  have hkind : kindSections e.unmarked.kind = (kindSections e.kind).map Section.unmarked := by
    obtain ⟨-, -, -, kind⟩ := e
    cases kind with
    | plain text => rfl
    | expressionMismatch summary b =>
        exact congrArg (Section.text summary :: ·) (backtraceSections_unmarked _ _ _ _ b)
    | interfaceMismatch summary actual expected b =>
        exact congrArg (Section.text summary :: ·) (backtraceSections_unmarked _ _ _ _ b)
  rw [sections, sections, hexcerpt, hkind, List.map_append]
  cases e.sourceExcerpt? <;> rfl

end Diagnostic

/-! ### Panels -/

namespace Panel

theorem map_intercalate {α β : Type} (f : α → β) (sep : List α) (blocks : List (List α)) :
    (sep.intercalate blocks).map f = (sep.map f).intercalate (blocks.map (·.map f)) := by
  induction blocks with
  | nil => rfl
  | cons block blocks ih =>
      cases blocks with
      | nil => simp only [List.intercalate_singleton, List.map_cons, List.map_nil]
      | cons next blocks =>
          simp only [List.map_cons] at ih ⊢
          rw [List.intercalate_cons_cons, List.intercalate_cons_cons, List.map_append,
            List.map_append, ih]

/-- The lines of a diagnostic do not depend on its marks. -/
theorem map_text_body_unmarked (carets : Bool) (e : Diagnostic) :
    (body carets e.unmarked.sections).map Line.text = (body false e.sections).map Line.text := by
  rw [body, body, map_intercalate, map_intercalate, Diagnostic.sections_unmarked,
    List.map_map, List.map_map, List.map_map]
  simp only [Function.comp_def, Section.map_text_lines_unmarked]

theorem text_framed (l : Line) :
    (framed l).text = '│' :: if l.text = [] then [] else ' ' :: l.text := by
  by_cases h : l.text = []
  · have hwidth : l.width = 0 := List.length_eq_zero_iff.2 h
    rw [framed, if_pos hwidth, if_pos h]
    rfl
  · have hwidth : ¬ l.width = 0 := fun h' => h (List.length_eq_zero_iff.1 h')
    rw [framed, if_neg hwidth, if_neg h]
    rfl

/-- A panel is laid out by the texts of its lines. -/
theorem map_text_lines_congr (width : Nat) (title : Text) {ls ms : List Line}
    (h : ls.map Line.text = ms.map Line.text) :
    (lines width title ls).map Line.text = (lines width title ms).map Line.text := by
  have hframed (ks : List Line) : (ks.map framed).map Line.text =
      (ks.map Line.text).map fun s => '│' :: if s = [] then [] else ' ' :: s := by
    rw [List.map_map, List.map_map]
    exact List.map_congr_left fun l _ => text_framed l
  simp only [lines, List.map_append, List.map_cons, hframed, h]

end Panel
end TypeReport
