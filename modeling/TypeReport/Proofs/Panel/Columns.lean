import Mathlib.Data.Nat.Digits.Defs
import TypeReport.Proofs.Panel.Written
import TypeReport.Proofs.Position.LineTable

/-! # Tables in a panel

An excerpt without a focus is a listing (`IsListing`): each line of its text stands behind
its number, all gutters are equally wide, and nothing is cut off.  In a table two listings
stand side by side, in as many lines as the longer one has, with a bar at the same column in
each line (`IsBeside`) and a crossing there in each rule (`IsRule`).  The column is that of
the widest line on the left, whatever the lines are (`Table.showsCells`).  The panel of a
mismatch ends in a table with all of its frames (`exists_table_of_parse`). -/

namespace TypeReport

/-! ### Listings -/

/-- Whether a text is a gutter of a width, with a number and no mark. -/
def IsGutter (width number : Nat) (s : Text) : Prop :=
  s.length = width ∧ ∃ padding,
    s = "  ".toList ++ List.replicate padding ' ' ++ Text.ofNat number ++ " │ ".toList

/-- Whether lines list a text with its number: the text on one line, behind a gutter, and under it
nothing or carets. -/
inductive IsListed (width : Nat) : Text × Nat → List Text → Prop
  | row {gutter s : Text} {number : Nat} (hgutter : IsGutter width number gutter) :
      IsListed width (s, number) [gutter ++ s]
  | underlined {gutter s : Text} {number : Nat} (hgutter : IsGutter width number gutter)
      (m n : Nat) : IsListed width (s, number)
        [gutter ++ s, List.replicate (width + m) ' ' ++ List.replicate n '^']

/-- Whether lines list the lines of a text, numbered from a number on, behind gutters of the same
width. -/
def IsListing (number : Nat) (s : Text) (ls : List Text) : Prop :=
  ∃ width blocks, ls = blocks.flatten ∧
    List.Forall₂ (IsListed width) ((s.splitOn '\n').zipIdx number) blocks

theorem Text.length_ofNat_le {m n : Nat} (h : m ≤ n) : (ofNat m).length ≤ (ofNat n).length := by
  have hpos : 0 < (ofNat n).length := List.length_pos_of_ne_nil (ofNat_ne_nil n)
  have hn : n < 10 ^ (ofNat n).length :=
    (Nat.length_toDigits_le_iff (by decide) hpos).1 (Nat.le_refl _)
  exact (Nat.length_toDigits_le_iff (by decide) hpos).2 (Nat.lt_of_le_of_lt h hn)

namespace Excerpt

/-- The texts of the lines of an excerpt, without colours. -/
def texts (e : Excerpt) : List Text := (e.lines true).map Line.text

variable {e : Excerpt} {r : Row}

/-- The gutter has room for the numbers of all rows. -/
theorem length_ofNat_le_numberWidth (h : r ∈ e.rows) :
    (Text.ofNat r.number).length ≤ e.numberWidth := by
  obtain ⟨i, hi, hr⟩ := List.mem_iff_getElem.1 h
  have hnumber := number_rowsFrom (List.getElem?_eq_some_iff.2 ⟨hi, hr⟩)
  apply Text.length_ofNat_le
  omega

theorem isGutter_gutter (hfocus : e.focusLine = none) (h : r ∈ e.rows) :
    IsGutter (e.numberWidth + 5) r.number (e.gutter r) := by
  have hno : ¬ e.isFocused r = true := by simp [isFocused, hfocus]
  have hroom := length_ofNat_le_numberWidth h
  rw [gutter, if_neg hno]
  constructor
  · simp [List.leftpad]
    omega
  · exact ⟨e.numberWidth - (Text.ofNat r.number).length, by simp [List.leftpad]⟩

theorem isListing_texts (hfocus : e.focusLine = none) :
    IsListing e.startLine e.text e.texts := by
  refine ⟨e.numberWidth + 5, e.rows.map fun r => (e.rowLines true r).map Line.text, ?_, ?_⟩
  · rw [texts, lines, List.map_flatMap]
    rfl
  · rw [← map_rowsFrom e.startLine 0, List.forall₂_map_left_iff,
      List.forall₂_map_right_iff, ← rows, List.forall₂_same]
    intro r hr
    have hgutter := isGutter_gutter hfocus hr
    rcases map_text_rowLines_cases true e r with hlines | ⟨m, n, hlines⟩
    · rw [hlines]
      exact .row hgutter
    · rw [hlines, hgutter.1]
      exact .underlined hgutter m n

end Excerpt

/-! ### Tables -/

/-- Whether a line of a panel has a bar at a column, with one text before it, filled up with spaces,
and another behind it. -/
structure IsBeside (column : Nat) (left right l : Text) : Prop where
  bar : l[column]? = some '│'
  left : ∃ padding, l.take column =
    "│ ".toList ++ left ++ List.replicate padding ' ' ++ [' ']
  right : l.drop (column + 1) = ' ' :: right

/-- Whether a line of a panel is a rule with a crossing at a column. -/
structure IsRule (column : Nat) (l : Text) : Prop where
  crossing : l[column]? = some '┼'
  left : ∃ n, l.take column = "│ ".toList ++ List.replicate n '─'
  right : ∃ n, l.drop (column + 1) = List.replicate n '─'

/-- Whether lines of a panel show two cells: a rule, and below it the lines of the cells side by
side, as many as the cell with more lines has. -/
def ShowsCells (column : Nat) (left right : List Text) (ls : List Text) : Prop :=
  ∃ (rule : Text) (content : List Text), ls = rule :: content ∧ IsRule column rule ∧
    content.length = max left.length right.length ∧
    ∀ (i : Nat) (l : Text), content[i]? = some l →
      IsBeside column (left[i]?.getD []) (right[i]?.getD []) l

theorem cut_at_length {a b s : Text} {c : Char} (h : s = a ++ c :: b) :
    s[a.length]? = some c ∧ s.take a.length = a ∧ s.drop (a.length + 1) = b := by
  subst h
  refine ⟨?_, List.take_left, ?_⟩
  · rw [List.getElem?_append_right (Nat.le_refl _), Nat.sub_self]
    rfl
  · rw [← List.drop_drop, List.drop_left]
    rfl

namespace Table

variable {t : Table}

/-- Where the bars stand, counted from the border of the panel. -/
def column (t : Table) : Nat := t.leftWidth + 3

theorem isBeside_beside {left : Line} (h : left.width ≤ t.leftWidth) (right : Line) :
    IsBeside t.column left.text right.text (Panel.boxed (t.beside left right).text) := by
  have hlength : left.text.length ≤ t.leftWidth := h
  have hne : (t.beside left right).text ≠ [] := by
    rw [text_beside]
    simp
  have hline : Panel.boxed (t.beside left right).text = ("│ ".toList ++ left.text ++
      List.replicate (t.leftWidth - left.text.length) ' ' ++ [' ']) ++ '│' :: ' ' :: right.text := by
    rw [Panel.boxed_eq hne, text_beside]
    simp
  have hcolumn : ("│ ".toList ++ left.text ++
      List.replicate (t.leftWidth - left.text.length) ' ' ++ [' ']).length = t.column := by
    simp [column]
    omega
  obtain ⟨hbar, hleft, hright⟩ := cut_at_length hline
  rw [hcolumn] at hbar hleft hright
  exact ⟨hbar, ⟨_, hleft⟩, hright⟩

theorem isRule_rule (t : Table) : IsRule t.column (Panel.boxed t.rule.text) := by
  have hline : Panel.boxed t.rule.text = ("│ ".toList ++ List.replicate (t.leftWidth + 1) '─') ++
      '┼' :: List.replicate (t.rightWidth + 1) '─' := by
    simp [Panel.boxed, rule, Line.text]
  have hcolumn : ("│ ".toList ++ List.replicate (t.leftWidth + 1) '─').length = t.column := by
    simp [column]
  obtain ⟨hcrossing, hleft, hright⟩ := cut_at_length hline
  rw [hcolumn] at hcrossing hleft hright
  exact ⟨hcrossing, ⟨_, hleft⟩, ⟨_, hright⟩⟩

theorem isBeside_titleLine (t : Table) :
    IsBeside t.column t.leftTitle t.rightTitle (Panel.boxed t.titleLine.text) := by
  have htext (s : Text) : Line.text [⟨.bold, s⟩] = s := List.append_nil s
  have hwidth : Line.width [⟨.bold, t.leftTitle⟩] ≤ t.leftWidth := by
    rw [Line.width, htext]
    exact Nat.le_max_right _ _
  have hbeside := isBeside_beside hwidth [⟨.bold, t.rightTitle⟩]
  rwa [htext, htext] at hbeside

theorem length_cellLines (t : Table) (cell : List Line × List Line) :
    (t.cellLines cell).length = max cell.1.length cell.2.length := by
  rw [cellLines, ← map_range_max, List.length_map, List.length_range]

theorem getElem?_cellLines {cell : List Line × List Line} {i : Nat} {l : Line}
    (h : (t.cellLines cell)[i]? = some l) :
    l = t.beside (cell.1[i]?.getD []) (cell.2[i]?.getD []) := by
  rw [cellLines, ← map_range_max, List.getElem?_map, Option.map_eq_some_iff] at h
  obtain ⟨j, hj, rfl⟩ := h
  obtain ⟨hlt, rfl⟩ := List.getElem?_eq_some_iff.1 hj
  rw [List.getElem_range]

/-- The lines of two cells stand side by side below their rule. -/
theorem showsCells {cell : List Line × List Line} (hcell : cell ∈ t.cells) :
    ShowsCells t.column (cell.1.map Line.text) (cell.2.map Line.text)
      (((t.rule :: t.cellLines cell).map Line.text).map Panel.boxed) := by
  refine ⟨_, _, rfl, t.isRule_rule, ?_, ?_⟩
  · rw [List.length_map, List.length_map, length_cellLines, List.length_map, List.length_map]
  · intro i line hline
    rw [List.getElem?_map, List.getElem?_map, Option.map_map, Option.map_eq_some_iff] at hline
    obtain ⟨l, hl, rfl⟩ := hline
    have htext (ls : List Line) : (ls.map Line.text)[i]?.getD [] = (ls[i]?.getD []).text := by
      rw [List.getElem?_map]
      cases ls[i]? <;> rfl
    rw [getElem?_cellLines hl, htext, htext]
    exact isBeside_beside (width_le_leftWidth hcell i) _

/-- Below its titles a table shows its cells, one pair after the other. -/
theorem exists_lines_eq (t : Table) : ∃ title groups,
    (t.lines.map Line.text).map Panel.boxed = title :: groups.flatten ∧
    IsBeside t.column t.leftTitle t.rightTitle title ∧
    List.Forall₂ (fun cell => ShowsCells t.column (cell.1.map Line.text) (cell.2.map Line.text))
      t.cells groups := by
  refine ⟨_, t.cells.map fun cell => ((t.rule :: t.cellLines cell).map Line.text).map Panel.boxed,
    ?_, t.isBeside_titleLine, ?_⟩
  · rw [lines, List.map_cons, List.map_cons, List.map_flatMap, List.map_flatMap]
    rfl
  · rw [List.forall₂_map_right_iff, List.forall₂_same]
    exact fun cell hcell => showsCells hcell

end Table

/-! ### Panels -/

namespace Diagnostic

theorem getLast?_backtraceSections (leftTitle rightTitle : Text) (leftLine rightLine : Nat)
    {b : Backtrace} (h : b.frames ≠ []) :
    (backtraceSections leftTitle rightTitle leftLine rightLine b).getLast? =
      some (.columns leftTitle rightTitle (b.frames.map (frameRow leftLine rightLine))) := by
  rw [backtraceSections, if_neg (by simpa using h), List.getLast?_concat]

/-- The table of a diagnostic with frames is its last section. -/
theorem exists_getLast?_sections {e : Diagnostic} {trace : Backtrace}
    (htrace : trace ∈ e.kind.backtrace?) (hframes : trace.frames ≠ []) :
    ∃ leftTitle rightTitle leftLine rightLine, e.sections.getLast? =
      some (.columns leftTitle rightTitle (trace.frames.map (frameRow leftLine rightLine))) := by
  obtain ⟨location, snippet, marker, kind⟩ := e
  cases kind with
  | plain text => cases htrace
  | expressionMismatch summary b =>
      cases htrace
      refine ⟨"actual type".toList, "expected type".toList, 1, 1, ?_⟩
      rw [sections, kindSections, List.getLast?_append, List.getLast?_cons,
        getLast?_backtraceSections _ _ _ _ hframes]
      rfl
  | interfaceMismatch summary actual expected b =>
      cases htrace
      refine ⟨columnTitle "implementation".toList actual,
        columnTitle "expected by interface".toList expected, columnLine actual,
        columnLine expected, ?_⟩
      rw [sections, kindSections, List.getLast?_append, List.getLast?_cons,
        getLast?_backtraceSections _ _ _ _ hframes]
      rfl

/-- Whether lines of a panel show a frame: the listings of its sides next to each other. -/
def ShowsFrame (column leftLine rightLine : Nat) (f : Frame) (ls : List Text) : Prop :=
  IsListing leftLine f.implementation (frameRow leftLine rightLine f).1.texts ∧
    IsListing rightLine f.interface (frameRow leftLine rightLine f).2.texts ∧
    ShowsCells column (frameRow leftLine rightLine f).1.texts (frameRow leftLine rightLine f).2.texts
      ls

/-- Whether lines of a panel end in a table of frames under two titles, with all bars and crossings
at the same column. -/
def EndsInTable (leftTitle rightTitle : Text) (leftLine rightLine : Nat) (frames : List Frame)
    (ls : List Text) : Prop :=
  ∃ (column : Nat) (above : List Text) (title : Text) (groups : List (List Text)),
    ls = above ++ title :: groups.flatten ∧ IsBeside column leftTitle rightTitle title ∧
      List.Forall₂ (ShowsFrame column leftLine rightLine) frames groups

theorem endsInTable_body {sections : List Section} {leftTitle rightTitle : Text}
    {leftLine rightLine : Nat} {frames : List Frame}
    (h : sections.getLast? =
      some (.columns leftTitle rightTitle (frames.map (frameRow leftLine rightLine)))) :
    EndsInTable leftTitle rightTitle leftLine rightLine frames
      (((Panel.body true sections).map Line.text).map Panel.boxed) := by
  obtain ⟨ss, rfl⟩ := List.getLast?_eq_some_iff.1 h
  obtain ⟨above, hbody⟩ := Panel.exists_body_append_singleton true
    (.columns leftTitle rightTitle (frames.map (frameRow leftLine rightLine))) ss
  obtain ⟨title, groups, htable, htitle, hgroups⟩ := Table.exists_lines_eq
    ⟨leftTitle, rightTitle, (frames.map (frameRow leftLine rightLine)).map
      fun row => (row.1.lines true, row.2.lines true)⟩
  refine ⟨_, (above.map Line.text).map Panel.boxed, title, groups, ?_, htitle, ?_⟩
  · rw [hbody, List.map_append, List.map_append, ← htable]
    rfl
  · rw [List.forall₂_map_left_iff, List.forall₂_map_left_iff] at hgroups
    exact hgroups.imp fun f group hgroup =>
      ⟨Excerpt.isListing_texts rfl, Excerpt.isListing_texts rfl, hgroup⟩

/-- What is written for a diagnostic with frames is a panel that ends in a table of its titles and
frames, and each line between its borders starts with a bar.  If the style of paths puts in no line
feeds, the lines of the panel are the lines of what is written. -/
theorem exists_table_of_parse {d : Dialect} {style : PathStyle} {b : Block} {e : Diagnostic}
    (h : parse d style b = .ok e) {trace : Backtrace} (htrace : trace ∈ e.kind.backtrace?)
    (hframes : trace.frames ≠ []) {t : Terminal} (ht : t.colours = false) (index : Nat) :
    ∃ (top : Text) (inside : List Text) (bottom : Text),
      t.panel index e = top :: inside ++ [bottom] ∧
      t.write (.diagnostic index e) = Text.unlines (top :: inside ++ [bottom]) ∧
      (∀ l ∈ inside, l.head? = some '│') ∧
      (∃ leftTitle rightTitle leftLine rightLine,
        e.sections.getLast? = some (.columns leftTitle rightTitle
          (trace.frames.map (frameRow leftLine rightLine))) ∧
        EndsInTable leftTitle rightTitle leftLine rightLine trace.frames inside) ∧
      ((∀ p, '\n' ∉ p → '\n' ∉ style p) → ∀ l ∈ t.panel index e, '\n' ∉ l) := by
  have hpanel := Terminal.panel_eq ht index e
  refine ⟨_, _, _, hpanel, ?_, ?_, ?_, ?_⟩
  · rw [Terminal.write_diagnostic, hpanel]
  · rw [List.forall_mem_map]
    exact fun s _ => rfl
  · obtain ⟨leftTitle, rightTitle, leftLine, rightLine, hlast⟩ :=
      exists_getLast?_sections htrace hframes
    exact ⟨leftTitle, rightTitle, leftLine, rightLine, hlast, endsInTable_body hlast⟩
  · exact fun hstyle => Terminal.lf_not_mem_panel ht index (lf_not_mem_path h hstyle)

/-- Two frames whose right sides have two lines, with carets under both lines of one of them. -/
theorem exists_table_of_parse_carets :
    ∃ e trace, parse .ocaml4 id ⟨0, ("File \"a\", line 1:\n" ++
          "Error: This expression has type t is not included in a val x :\nint b\n" ++
          "Type s is not included in val x :\nint = 3\n").toList⟩ = .ok e ∧
      trace ∈ e.kind.backtrace? ∧ trace.frames.length = 2 ∧
      (Terminal.withWidth false 40).colours = false ∧
      ∃ (top : Text) (inside : List Text) (bottom : Text),
        (Terminal.withWidth false 40).panel 0 e = top :: inside ++ [bottom] ∧
        (Terminal.withWidth false 40).write (.diagnostic 0 e) =
          Text.unlines (top :: inside ++ [bottom]) ∧
        (∀ l ∈ inside, l.head? = some '│' ∧ '\n' ∉ l) ∧
        ∃ leftTitle rightTitle leftLine rightLine,
          EndsInTable leftTitle rightTitle leftLine rightLine trace.frames inside := by
  have hparse : parse .ocaml4 id ⟨0, ("File \"a\", line 1:\n" ++
      "Error: This expression has type t is not included in a val x :\nint b\n" ++
      "Type s is not included in val x :\nint = 3\n").toList⟩ =
      .ok ⟨⟨['a'], 1, 1, none, none⟩, [], none,
        .expressionMismatch "This expression has type t is not included in a val x :".toList
          ⟨[⟨⟨['s'], "val x :\nint = 3".toList⟩, none, none⟩,
            ⟨⟨['t'], "a val x :\nint b".toList⟩, none, some ⟨2, 13⟩⟩], none⟩⟩ := by
    decide +kernel
  obtain ⟨top, inside, bottom, hpanel, hwritten, hbar, ⟨_, _, _, _, -, htable⟩, hlf⟩ :=
    exists_table_of_parse hparse rfl (List.cons_ne_nil _ _) (t := Terminal.withWidth false 40) rfl 0
  refine ⟨_, _, hparse, rfl, rfl, rfl, top, inside, bottom, hpanel, hwritten, fun l hl => ?_, _, _,
    _, _, htable⟩
  refine ⟨hbar l hl, hlf (fun _ hp => hp) l ?_⟩
  rw [hpanel]
  simp [hl]

end Diagnostic
end TypeReport
