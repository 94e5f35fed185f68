import TypeReport.Proofs.Panel.Layout
import TypeReport.Proofs.Rows
import TypeReport.Proofs.Text.Characters
import TypeReport.Proofs.Text.Printed
import TypeReport.Report.Strings
import TypeReport.Report.Terminal

/-! # What lines are made of

The furniture of a panel, its gutters, bars, borders and numbers, holds no control
character.  So the lines of a section hold one only if the texts do that they are made of
(`Section.not_mem_lines`), and the lines of an event hold an escape character only if a
string of the event does (`escape_not_mem_lines`).  This goes layout by layout. -/

namespace TypeReport

/-! ### Control characters -/

/-- Whether a character is a control character, such as the escape character and the line feed. -/
def IsControl (c : Char) : Prop := c.toNat < 32

instance (c : Char) : Decidable (IsControl c) := inferInstanceAs (Decidable (c.toNat < 32))

variable {c : Char}

theorem IsControl.ne (h : IsControl c) (d : Char) (hd : ¬ IsControl d) : c ≠ d := by
  rintro rfl
  exact hd h

theorem IsControl.not_mem (h : IsControl c) {s : Text} (hs : s.any (IsControl ·) = false) :
    c ∉ s := by
  intro hc
  rw [List.any_eq_false] at hs
  exact hs c hc (decide_eq_true h)

theorem IsControl.not_mem_ofNat (h : IsControl c) (n : Nat) : c ∉ Text.ofNat n := by
  apply Text.not_mem_ofNat
  rw [← Bool.not_eq_true]
  intro hdigit
  simp only [Char.isDigit, Bool.and_eq_true, decide_eq_true_eq] at hdigit
  have hle : 48 ≤ c.toNat := UInt32.le_iff_toNat_le.1 hdigit.1
  unfold IsControl at h
  omega

theorem isControl_escape : IsControl '\x1b' := by decide

/-! ### Excerpts -/

namespace Excerpt

theorem text_mem_of_mem_rows {e : Excerpt} {r : Row} (h : r ∈ e.rows) :
    r.text ∈ e.text.splitOn '\n' := by
  have hmem := List.mem_map_of_mem (f := Row.text) h
  rwa [rows, map_text_rowsFrom] at hmem

theorem not_mem_gutter (hc : IsControl c) (e : Excerpt) (r : Row) : c ∉ e.gutter r := by
  have hnumber := hc.not_mem_ofNat r.number
  have hspace := hc.ne ' ' (by decide)
  have hbar := hc.ne '│' (by decide)
  have hmark := hc.ne '>' (by decide)
  unfold gutter
  split <;> simp [List.leftpad, hnumber, hspace, hbar, hmark]

theorem not_mem_lines (hc : IsControl c) {e : Excerpt} (h : ∀ s ∈ e.text.splitOn '\n', c ∉ s)
    (carets : Bool) : ∀ l ∈ e.lines carets, c ∉ l.text := by
  intro l hl
  obtain ⟨r, hr, htext | ⟨m, n, htext⟩⟩ := text_cases_of_mem_lines hl
  · rw [htext, rowText, List.mem_append, not_or]
    exact ⟨not_mem_gutter hc e r, h _ (text_mem_of_mem_rows hr)⟩
  · rw [htext]
    simp [hc.ne ' ' (by decide), hc.ne '^' (by decide)]

end Excerpt

/-! ### Tables -/

namespace Table

theorem not_mem_beside (hc : IsControl c) (t : Table) {left right : Line} (hleft : c ∉ left.text)
    (hright : c ∉ right.text) : c ∉ (t.beside left right).text := by
  rw [text_beside]
  simp [hleft, hright, hc.ne ' ' (by decide), hc.ne '│' (by decide)]

theorem not_mem_lines (hc : IsControl c) {t : Table} (hleft : c ∉ t.leftTitle)
    (hright : c ∉ t.rightTitle)
    (hcells : ∀ cell ∈ t.cells, (∀ l ∈ cell.1, c ∉ l.text) ∧ ∀ l ∈ cell.2, c ∉ l.text) :
    ∀ l ∈ t.lines, c ∉ l.text := by
  -- Where one cell has no line left, an empty one stands beside the line of the other.
  have hcell {ls : List Line} (h : ∀ l ∈ ls, c ∉ l.text) (i : Nat) : c ∉ (ls[i]?.getD []).text := by
    cases hl : ls[i]? with
    | none => exact List.not_mem_nil
    | some l => exact h l (List.mem_of_getElem? hl)
  intro l hl
  rcases List.mem_cons.1 hl with rfl | hl
  · apply not_mem_beside hc
    · simpa [Line.text] using hleft
    · simpa [Line.text] using hright
  · obtain ⟨cell, hmem, hl⟩ := List.mem_flatMap.1 hl
    obtain ⟨hcellLeft, hcellRight⟩ := hcells cell hmem
    rcases List.mem_cons.1 hl with rfl | hl
    · simp [rule, Line.text, hc.ne '─' (by decide), hc.ne '┼' (by decide)]
    · rw [cellLines, ← map_range_max] at hl
      obtain ⟨i, -, rfl⟩ := List.mem_map.1 hl
      exact not_mem_beside hc t (hcell hcellLeft i) (hcell hcellRight i)

end Table

/-! ### Sections -/

namespace Section

/-- The strings of a section. -/
def strings : Section → List Text
  | excerpt e => [e.text]
  | text s => [s]
  | notice title body => [title, body]
  | columns leftTitle rightTitle rows =>
      leftTitle :: rightTitle :: rows.flatMap fun row => [row.1.text, row.2.text]

/-- The texts that the lines of a section are made of: its titles, and the lines of its other
strings. -/
def pieces : Section → List Text
  | excerpt e => e.text.splitOn '\n'
  | text s => s.lines
  | notice title body => title :: body.lines
  | columns leftTitle rightTitle rows =>
      leftTitle :: rightTitle ::
        rows.flatMap fun row => row.1.text.splitOn '\n' ++ row.2.text.splitOn '\n'

theorem exists_subset_of_mem_pieces {s : Section} {p : Text} (h : p ∈ s.pieces) :
    ∃ t ∈ s.strings, p ⊆ t := by
  cases s with
  | excerpt e => exact ⟨e.text, List.mem_cons_self, Text.subset_of_mem_splitOn h⟩
  | text t => exact ⟨t, List.mem_cons_self, Text.subset_of_mem_lines h⟩
  | notice title body =>
      rcases List.mem_cons.1 h with rfl | h
      · exact ⟨p, List.mem_cons_self, List.Subset.refl p⟩
      · exact ⟨body, by simp [strings], Text.subset_of_mem_lines h⟩
  | columns leftTitle rightTitle rows =>
      rcases List.mem_cons.1 h with rfl | h
      · exact ⟨p, List.mem_cons_self, List.Subset.refl p⟩
      · rcases List.mem_cons.1 h with rfl | h
        · exact ⟨p, by simp [strings], List.Subset.refl p⟩
        · obtain ⟨row, hrow, h⟩ := List.mem_flatMap.1 h
          have hstrings (t : Text) (ht : t ∈ [row.1.text, row.2.text]) :
              t ∈ (columns leftTitle rightTitle rows).strings :=
            List.mem_cons_of_mem _ (List.mem_cons_of_mem _ (List.mem_flatMap.2 ⟨row, hrow, ht⟩))
          rcases List.mem_append.1 h with h | h
          · exact ⟨_, hstrings row.1.text (by simp), Text.subset_of_mem_splitOn h⟩
          · exact ⟨_, hstrings row.2.text (by simp), Text.subset_of_mem_splitOn h⟩

theorem not_mem_lines (hc : IsControl c) {s : Section} (h : ∀ p ∈ s.pieces, c ∉ p)
    (carets : Bool) : ∀ l ∈ s.lines carets, c ∉ l.text := by
  cases s with
  | excerpt e => exact Excerpt.not_mem_lines hc h carets
  | text t =>
      intro l hl
      obtain ⟨line, hline, rfl⟩ := List.mem_map.1 hl
      rw [Line.text_plain]
      exact h line hline
  | notice title body =>
      rw [pieces, List.forall_mem_cons] at h
      intro l hl
      rcases List.mem_cons.1 hl with rfl | hl
      · simp [Line.text, h.1, hc.ne ':' (by decide)]
      · obtain ⟨line, hline, rfl⟩ := List.mem_map.1 hl
        simp [Line.text, h.2 line hline, hc.ne ' ' (by decide)]
  | columns leftTitle rightTitle rows =>
      simp only [pieces, List.forall_mem_cons, List.forall_mem_flatMap, List.forall_mem_append] at h
      obtain ⟨hleft, hright, hrows⟩ := h
      apply Table.not_mem_lines hc hleft hright
      intro cell hcell
      obtain ⟨row, hrow, rfl⟩ := List.mem_map.1 hcell
      obtain ⟨h₁, h₂⟩ := hrows row hrow
      exact ⟨Excerpt.not_mem_lines hc h₁ carets, Excerpt.not_mem_lines hc h₂ carets⟩

end Section

/-! ### Diagnostics -/

theorem Location.not_mem_place (hc : IsControl c) {l : Location} (h : c ∉ l.path) :
    c ∉ l.place := by
  simp [place, h, hc.ne ':' (by decide), hc.not_mem_ofNat]

namespace Diagnostic

theorem not_mem_columnTitle (hc : IsControl c) {title : Text} {l : Option Location}
    (htitle : c ∉ title) (h : ∀ location ∈ l, c ∉ location.path) : c ∉ columnTitle title l := by
  cases l with
  | none => exact htitle
  | some location =>
      have hplace := Location.not_mem_place hc (h location rfl)
      have hopening : c ∉ " (".toList := hc.not_mem (by decide)
      have hclosing : c ∉ [')'] := hc.not_mem (by decide)
      rw [columnTitle, List.mem_append, List.mem_append, List.mem_append, not_or, not_or, not_or]
      exact ⟨⟨⟨htitle, hopening⟩, hplace⟩, hclosing⟩

theorem not_mem_title (hc : IsControl c) {e : Diagnostic} (h : c ∉ e.location.path) (index : Nat) :
    c ∉ e.title index := by
  have hopening : c ∉ "Error #".toList := hc.not_mem (by decide)
  have hword : c ∉ " in ".toList := hc.not_mem (by decide)
  unfold title
  rw [List.mem_append, List.mem_append, List.mem_append, not_or, not_or, not_or]
  exact ⟨⟨⟨hopening, hc.not_mem_ofNat _⟩, hword⟩, Location.not_mem_place hc h⟩

theorem escape_not_mem_strings_backtraceSections {leftTitle rightTitle : Text}
    (hleft : '\x1b' ∉ leftTitle) (hright : '\x1b' ∉ rightTitle) (leftLine rightLine : Nat)
    {b : Backtrace} (h : ∀ s ∈ b.strings, '\x1b' ∉ s) :
    ∀ sec ∈ backtraceSections leftTitle rightTitle leftLine rightLine b,
      ∀ s ∈ sec.strings, '\x1b' ∉ s := by
  rw [Backtrace.strings, List.forall_mem_append, List.forall_mem_flatMap] at h
  obtain ⟨hframes, hnotice⟩ := h
  rw [backtraceSections, List.forall_mem_append]
  constructor
  · intro sec hsec
    obtain ⟨notice, hmem, rfl⟩ := Option.map_eq_some_iff.1 (Option.mem_toList.1 hsec)
    have htitle : '\x1b' ∉ "Additional error".toList := by decide
    simp only [Section.strings, List.forall_mem_cons]
    exact ⟨htitle, hnotice notice (Option.mem_toList.2 hmem), by simp⟩
  · split
    case isTrue => simp
    case isFalse =>
      simp only [List.forall_mem_singleton, Section.strings, List.forall_mem_cons,
        List.forall_mem_flatMap, List.forall_mem_map]
      refine ⟨hleft, hright, fun f hf => ?_⟩
      simpa [frameRow] using hframes f hf

theorem escape_not_mem_strings_kindSections {k : Kind} (h : ∀ s ∈ k.strings, '\x1b' ∉ s) :
    ∀ sec ∈ kindSections k, ∀ s ∈ sec.strings, '\x1b' ∉ s := by
  cases k with
  | plain text => simpa [kindSections, Section.strings, Kind.strings] using h
  | expressionMismatch summary b =>
      rw [Kind.strings, List.forall_mem_cons] at h
      rw [kindSections, List.forall_mem_cons]
      refine ⟨by simpa [Section.strings] using h.1, ?_⟩
      exact escape_not_mem_strings_backtraceSections (by decide) (by decide) 1 1 h.2
  | interfaceMismatch summary actual expected b =>
      rw [Kind.strings, List.forall_mem_append, List.forall_mem_cons, List.forall_mem_flatMap,
        List.forall_mem_append] at h
      obtain ⟨⟨hsummary, hactual, hexpected⟩, hb⟩ := h
      rw [kindSections, List.forall_mem_cons]
      refine ⟨by simpa [Section.strings] using hsummary, ?_⟩
      apply escape_not_mem_strings_backtraceSections
      · exact not_mem_columnTitle isControl_escape (by decide) fun l hl =>
          hactual l (Option.mem_toList.2 hl) l.path List.mem_cons_self
      · exact not_mem_columnTitle isControl_escape (by decide) fun l hl =>
          hexpected l (Option.mem_toList.2 hl) l.path List.mem_cons_self
      · exact hb

theorem escape_not_mem_strings_sections {e : Diagnostic} (h : ∀ s ∈ e.strings, '\x1b' ∉ s) :
    ∀ sec ∈ e.sections, ∀ s ∈ sec.strings, '\x1b' ∉ s := by
  rw [strings, List.forall_mem_append, List.forall_mem_append, List.forall_mem_map] at h
  obtain ⟨⟨-, hsnippet⟩, hkind⟩ := h
  rw [sections, List.forall_mem_append]
  refine ⟨?_, escape_not_mem_strings_kindSections hkind⟩
  intro sec hsec
  obtain ⟨x, hx, rfl⟩ := Option.map_eq_some_iff.1 (Option.mem_toList.1 hsec)
  obtain ⟨first, -, rfl⟩ := Option.map_eq_some_iff.1 hx
  rw [Section.strings, List.forall_mem_singleton]
  intro hc
  rcases Text.mem_intercalate hc with hc | ⟨l, hl, hc⟩
  · cases List.mem_singleton.1 hc
  · obtain ⟨line, hline, rfl⟩ := List.mem_map.1 hl
    exact hsnippet line hline hc

end Diagnostic

/-! ### Panels -/

namespace Panel

theorem not_mem_body (hc : IsControl c) {sections : List Section}
    (h : ∀ sec ∈ sections, ∀ p ∈ sec.pieces, c ∉ p) (carets : Bool) :
    ∀ l ∈ body carets sections, c ∉ l.text := by
  intro l hl
  rcases Text.mem_intercalate hl with hl | ⟨block, hblock, hl⟩
  · rw [List.mem_singleton.1 hl]
    exact List.not_mem_nil
  · obtain ⟨sec, hsec, rfl⟩ := List.mem_map.1 hblock
    exact Section.not_mem_lines hc (h sec hsec) carets l hl

theorem not_mem_lines (hc : IsControl c) (width : Nat) {title : Text} {ls : List Line}
    (htitle : c ∉ title) (h : ∀ l ∈ ls, c ∉ l.text) : ∀ l ∈ lines width title ls, c ∉ l.text := by
  have hspace := hc.ne ' ' (by decide)
  have hdash := hc.ne '─' (by decide)
  simp only [lines, List.cons_append, List.forall_mem_cons, List.forall_mem_append,
    List.forall_mem_map]
  refine ⟨?_, fun l hl => ?_, ?_⟩
  · simp [top, Line.text, htitle, hspace, hdash, hc.ne '╭' (by decide)]
  · have hclean := h l hl
    rw [text_framed]
    split <;> simp [hclean, hspace, hc.ne '│' (by decide)]
  · simp [bottom, Line.text, hdash, hc.ne '╰' (by decide)]

end Panel

/-! ### Events -/

theorem LocationFault.escape_not_mem_reason {f : LocationFault} (h : ∀ s ∈ f.strings, '\x1b' ∉ s) :
    '\x1b' ∉ f.reason := by
  cases f <;> first | decide | exact h _ List.mem_cons_self

theorem Failure.escape_not_mem_message {f : Failure} (h : ∀ s ∈ f.strings, '\x1b' ∉ s) :
    '\x1b' ∉ f.message := by
  cases f with
  | malformedLocation line fault =>
      have hline : '\x1b' ∉ line := h _ List.mem_cons_self
      have hreason := LocationFault.escape_not_mem_reason fun s hs => h s (List.mem_cons_of_mem _ hs)
      unfold message
      simp [hline, hreason]
  | malformedStart number line =>
      have hline : '\x1b' ∉ line := h _ List.mem_cons_self
      have hnumber : '\x1b' ∉ Text.ofNat number := Text.not_mem_ofNat rfl _
      unfold message
      simp [hline, hnumber]
  | unexpectedLine line =>
      have hline : '\x1b' ∉ line := h _ List.mem_cons_self
      unfold message
      simp [hline]
  | missingErrorLine place =>
      have hplace : '\x1b' ∉ place := h _ List.mem_cons_self
      unfold message
      simp [hplace]
  | unrecognizedConnective chunk =>
      have hchunk : '\x1b' ∉ chunk := h _ List.mem_cons_self
      unfold message
      simp [hchunk]

namespace Terminal

theorem escape_not_mem_plural (n : Nat) : '\x1b' ∉ plural n := by
  unfold plural
  split <;> decide

theorem escape_not_mem_bar (total completed : Nat) : '\x1b' ∉ bar total completed := by
  have htotal : '\x1b' ∉ Text.ofNat total := Text.not_mem_ofNat rfl _
  have hcompleted : '\x1b' ∉ Text.ofNat completed := Text.not_mem_ofNat rfl _
  simp [bar, htotal, hcompleted]

/-- The lines of an event have an escape character only if a string of the event does. -/
theorem escape_not_mem_lines {t : Terminal} (ht : t.colours = true) {e : Event}
    (h : ∀ s ∈ e.strings, '\x1b' ∉ s) : ∀ l ∈ t.lines e, '\x1b' ∉ l.text := by
  have hnumber (n : Nat) : '\x1b' ∉ Text.ofNat n := Text.not_mem_ofNat rfl n
  cases e with
  | start total =>
      unfold lines
      dsimp only
      simp [Line.text, hnumber, escape_not_mem_plural]
  | progress total completed =>
      unfold lines
      dsimp only
      simp [Line.text, escape_not_mem_bar]
  | diagnostic index e =>
      have hstrings : ∀ s ∈ e.strings, '\x1b' ∉ s := h
      rw [Diagnostic.strings, List.forall_mem_append, List.forall_mem_append] at hstrings
      have hpath : '\x1b' ∉ e.location.path := hstrings.1.1 _ List.mem_cons_self
      unfold lines
      dsimp only
      rw [ht]
      apply Panel.not_mem_lines isControl_escape
      · exact Diagnostic.not_mem_title isControl_escape hpath index
      · apply Panel.not_mem_body isControl_escape
        intro sec hsec p hp hc
        obtain ⟨s, hs, hsubset⟩ := Section.exists_subset_of_mem_pieces hp
        exact Diagnostic.escape_not_mem_strings_sections h sec hsec s hs (hsubset hc)
  | skipped s =>
      rw [Event.strings, List.forall_mem_append, List.forall_mem_flatMap] at h
      obtain ⟨hlocation, hfailure⟩ := h
      have hplace : '\x1b' ∉ skippedPlace s.location := by
        cases hl : s.location with
        | none => exact List.not_mem_nil
        | some l =>
            have hpath : '\x1b' ∉ l.path := hlocation l (by simp [hl]) _ List.mem_cons_self
            simp [skippedPlace, Location.not_mem_place isControl_escape hpath]
      unfold lines
      dsimp only
      simp [warning, Line.text, hnumber, hplace, Failure.escape_not_mem_message hfailure]
  | finish total failed =>
      unfold lines
      dsimp only
      split
      case isTrue => simp
      case isFalse => simp [warning, Line.text, hnumber, escape_not_mem_plural]
  | flush => exact fun l hl => absurd hl List.not_mem_nil

end Terminal
end TypeReport
