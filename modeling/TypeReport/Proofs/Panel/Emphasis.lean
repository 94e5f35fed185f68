import Mathlib.Data.List.Forall2
import TypeReport.Proofs.Covered
import TypeReport.Proofs.Panel.Characters
import TypeReport.Proofs.Panel.Screen

/-! # Emphasised parts of excerpts

A row shows its share of the emphasised part of its excerpt, and its carets stand at the
columns of that share (`textIn_rowLine`, `underlines_rowLines`).  The shares of all rows
make up the emphasised part, up to the line feeds between the rows
(`flatMap_coveredFrom_rowsFrom`).  So an excerpt shows a text with its mark below lines
that have none of it (`Excerpt.Shows`, `Excerpt.shows`). -/

namespace TypeReport

/-! ### Rows -/

namespace Row

/-- The characters of a row that a mark covers, each with its column, where the row itself starts at
column `k`. -/
def marked (mark : Option Span) (k : Nat) (r : Row) : List (Nat × Char) :=
  mark.elim [] fun m => m.coveredFrom r.offset k r.text

/-- The columns of a row that a mark covers. -/
def columns (mark : Option Span) (k : Nat) (r : Row) : List Nat := (r.marked mark k).map (·.1)

theorem marked_shift (mark : Option Span) (k n : Nat) (r : Row) :
    (r.shift n).marked (mark.map (·.shift n)) k = r.marked mark k := by
  cases mark with
  | none => rfl
  | some m => exact Span.coveredFrom_shift m n r.offset k r.text

/-- A row that a mark meets shows what the mark covers of it. -/
theorem marked_of_hit? {mark : Option Span} {r : Row} {a m b : Text}
    (h : r.hit? mark = some (a, m, b)) (k : Nat) :
    r.marked mark k = (List.range' (k + a.length) m.length).zip m ∧ m ≠ [] := by
  cases mark with
  | none => cases h
  | some span =>
      simp only [hit?, Option.bind_eq_bind, Option.bind_some, Option.bind_eq_some_iff] at h
      obtain ⟨common, hcommon, hcut⟩ := h
      obtain ⟨hlt, rfl⟩ := Span.inter?_eq_some_iff.1 hcommon
      obtain ⟨htext, hstart, hstop⟩ := Span.append_of_cut? hcut
      have hsize := congrArg Text.size htext
      simp only [Text.size_append, Span.rebase, Row.span] at hsize hstart hstop hlt
      constructor
      · have hrow : r.marked (some span) k = span.coveredFrom r.offset k (a ++ m ++ b) := by
          rw [htext]
          rfl
        rw [hrow]
        apply Span.coveredFrom_of_parts
        · by_cases hle : span.start ≤ r.offset
          · exact .inl (Text.size_eq_zero_iff.1 (by omega))
          · exact .inr (by omega)
        · omega
        · omega
        · by_cases hle : span.stop ≤ r.offset + r.text.size
          · exact .inr (by omega)
          · exact .inl (Text.size_eq_zero_iff.1 (by omega))
      · rintro rfl
        rw [Text.size_nil] at hstop
        omega

/-- A row that a mark of its text does not meet has no character that the mark covers. -/
theorem marked_of_hit?_none {mark : Option Span} {r : Row} {p q : Text}
    (hmark : ∀ m ∈ mark, m.IsIn (p ++ r.text ++ q)) (hoffset : r.offset = p.size)
    (h : r.hit? mark = none) (k : Nat) : r.marked mark k = [] := by
  cases mark with
  | none => rfl
  | some span =>
      simp only [hit?, Option.bind_eq_bind, Option.bind_some] at h
      cases hcommon : span.inter? r.span with
      | none =>
          exact Span.coveredFrom_of_outside (Span.inter?_eq_none_iff.1 hcommon) k
      | some common =>
          -- The common part has boundaries for its ends, so it is cut out of the row.
          have hspan : r.span = ⟨p.size, p.size + r.text.size⟩ := by
            rw [Row.span, hoffset]
          rw [hspan] at hcommon
          have hpart := Span.IsIn.inter? (hmark span rfl) hcommon
          obtain ⟨a, m, b, hcut⟩ := Span.isIn_iff_exists_cut?.1 hpart
          rw [hspan, hcommon, Option.bind_some, hoffset, hcut] at h
          cases h

end Row

/-! ### The lines of a row -/

/-- Whether a text has carets at some columns and otherwise spaces. -/
def IsUnderline (columns : List Nat) (s : Text) : Prop :=
  (∀ c ∈ s, c = ' ' ∨ c = '^') ∧ ∀ k, s[k]? = some '^' ↔ k ∈ columns

theorem isUnderline_replicate (m n : Nat) :
    IsUnderline (List.range' m n) (List.replicate m ' ' ++ List.replicate n '^') := by
  constructor
  · intro c hc
    rcases List.mem_append.1 hc with hc | hc
    · exact .inl (List.eq_of_mem_replicate hc)
    · exact .inr (List.eq_of_mem_replicate hc)
  · intro k
    rw [List.mem_range'_1, List.getElem?_append, List.length_replicate]
    split
    case isTrue hlt =>
      rw [List.getElem?_replicate_of_lt hlt]
      refine iff_of_false (by decide) (by omega)
    case isFalse hle =>
      rw [List.getElem?_replicate]
      split
      · exact iff_of_true rfl (by omega)
      · exact iff_of_false (by simp) (by omega)

namespace Excerpt

variable {e : Excerpt} {r : Row}

/-- The line that a row shows, apart from its carets. -/
def rowLine (e : Excerpt) (r : Row) : Line :=
  match r.hit? e.emphasis with
  | none => e.gutterPiece r :: Line.plain r.text
  | some (before, inside, behind) =>
      [e.gutterPiece r, ⟨.plain, before⟩, ⟨.emphasis, inside⟩, ⟨.plain, behind⟩]

theorem rowLines_false (e : Excerpt) (r : Row) : e.rowLines false r = [e.rowLine r] := by
  unfold rowLines rowLine
  cases r.hit? e.emphasis with
  | none => rfl
  | some parts => rfl

theorem lines_false (e : Excerpt) : e.lines false = e.rows.map e.rowLine := by
  have hrow : e.rowLines false = fun r => [e.rowLine r] := funext e.rowLines_false
  rw [lines, hrow]
  exact List.map_eq_flatMap.symm

/-- Whether lines are those of a row whose marked part is underlined: one more line when there is
something to underline, and no more otherwise. -/
def Underlines (e : Excerpt) (mark : Option Span) (r : Row) (ls : List Text) : Prop :=
  if r.columns mark (e.gutter r).length = [] then ls = [e.rowText r]
  else ∃ under, ls = [e.rowText r, under] ∧
    IsUnderline (r.columns mark (e.gutter r).length) under

variable {p q : Text} (hemphasis : ∀ m ∈ e.emphasis, m.IsIn (p ++ r.text ++ q))
  (hoffset : r.offset = p.size)

include hemphasis hoffset

/-- A row has in the emphasis ink what the emphasised part covers of it. -/
theorem textIn_rowLine (k : Nat) :
    (e.rowLine r).textIn .emphasis = (r.marked e.emphasis k).map (·.2) := by
  have hgutter : (e.gutterPiece r).ink ≠ .emphasis := by
    unfold gutterPiece
    dsimp only
    split
    · decide
    · decide
  unfold rowLine
  split
  case h_1 hhit =>
    rw [Row.marked_of_hit?_none hemphasis hoffset hhit, Line.textIn, List.filter_cons_of_neg]
    · rfl
    · simpa using hgutter
  case h_2 before inside behind hhit =>
    rw [(Row.marked_of_hit? hhit k).1, List.map_snd_zip (by simp), Line.textIn,
      List.filter_cons_of_neg]
    · exact List.append_nil inside
    · simpa using hgutter

/-- The carets under a row stand where the emphasised part covers it. -/
theorem underlines_rowLines :
    e.Underlines e.emphasis r ((e.rowLines true r).map (Line.paint false)) := by
  have htext := e.text_rowLines r
  rw [rowLines_false, List.map_singleton, List.singleton_inj] at htext
  have hpaint : Line.paint false = Line.text := funext Line.paint_false
  rw [hpaint]
  unfold Underlines Row.columns
  cases hhit : r.hit? e.emphasis with
  | none =>
      have hline : e.rowLines true r = [e.rowLine r] := by
        rw [rowLines, rowLine, hhit]
      rw [Row.marked_of_hit?_none hemphasis hoffset hhit, if_pos List.map_nil, hline,
        List.map_singleton, htext]
  | some parts =>
      obtain ⟨before, inside, behind⟩ := parts
      have hline : e.rowLines true r = [e.rowLine r, e.caretLine r before inside] := by
        rw [rowLines, rowLine, hhit]
        rfl
      obtain ⟨hmarked, hne⟩ := Row.marked_of_hit? hhit (e.gutter r).length
      have hcolumns : (r.marked e.emphasis (e.gutter r).length).map (·.1) =
          List.range' ((e.gutter r).length + before.length) inside.length := by
        rw [hmarked, List.map_fst_zip (by simp)]
      rw [hcolumns, if_neg (by simpa using hne), hline]
      refine ⟨(e.caretLine r before inside).text, ?_, ?_⟩
      · rw [List.map_cons, List.map_singleton, htext]
      · rw [caretLine, Line.text_plain]
        exact isUnderline_replicate _ _

omit hemphasis hoffset

/-! ### The rows of an excerpt -/

/-- What a span covers of consecutive rows is what it covers of their text, without the line feeds
between the rows. -/
theorem flatMap_coveredFrom_rowsFrom (span : Span) {ls : List Text} (h : ∀ l ∈ ls, '\n' ∉ l)
    (n o : Nat) :
    ((rowsFrom n o ls).flatMap fun r => (span.coveredFrom r.offset 0 r.text).map (·.2)) =
      ((span.coveredFrom o 0 (Text.joinLines ls)).map (·.2)).filter (· ≠ '\n') := by
  have hrow (o : Nat) {l : Text} (hl : '\n' ∉ l) :
      ((span.coveredFrom o 0 l).map (·.2)).filter (· ≠ '\n') =
        (span.coveredFrom o 0 l).map (·.2) := by
    rw [List.filter_eq_self]
    intro c hc
    have hmem := span.map_snd_coveredFrom_subset o 0 l hc
    simpa using fun hlf : c = '\n' => hl (hlf ▸ hmem)
  induction ls generalizing n o with
  | nil => rfl
  | cons l ls ih =>
      rw [List.forall_mem_cons] at h
      rw [rowsFrom, List.flatMap_cons, ih h.2]
      cases ls with
      | nil =>
          rw [Text.joinLines_singleton, hrow o h.1]
          exact List.append_nil _
      | cons m ls =>
          have hoffset : o + (l ++ ['\n']).size = o + l.size + 1 := by
            rw [Text.size_line, Nat.add_assoc]
          have hfeed (k : Nat) :
              ((span.coveredFrom (o + l.size) k ['\n']).map (·.2)).filter (· ≠ '\n') = [] := by
            unfold Span.coveredFrom
            split
            · rfl
            · rfl
          rw [Text.joinLines_cons_cons, Span.coveredFrom_append, Span.coveredFrom_append,
            List.map_append, List.map_append, List.filter_append, List.filter_append, hrow o h.1,
            hfeed, List.append_nil, hoffset,
            Span.map_snd_coveredFrom_congr span _ (0 + (l ++ ['\n']).length) 0]

/-! ### Excerpts -/

/-- Whether an excerpt shows a text below some lines, with a part of the text emphasised and nothing
else. -/
structure Shows (e : Excerpt) (above : List Text) (s : Text) (mark : Option Span) : Prop where
  isPart : ∀ m ∈ mark, (m.slice? s).isSome = true
  coloured : (e.lines false).flatMap (fun l => inked .emphasis (l.paint true)) =
    ((mark.bind (·.slice? s)).getD []).filter (· ≠ '\n')
  underlined : ∃ before shown,
    (e.lines true).map (Line.paint false) = (before ++ shown).flatten ∧
    List.Forall₂ (e.Underlines none) (rowsFrom e.startLine 0 above) before ∧
    List.Forall₂ (e.Underlines mark)
      (rowsFrom (e.startLine + above.length) 0 (s.splitOn '\n')) shown

/-- Whether an excerpt holds a text below some lines, with a mark of the text for its emphasised
part. -/
structure Holds (e : Excerpt) (above : List Text) (s : Text) (mark : Option Span) : Prop where
  lines : ∀ l ∈ above, '\n' ∉ l
  text : e.text = Text.unlines above ++ s
  emphasis : e.emphasis = mark.map (·.shift (Text.unlines above).size)
  mark : ∀ m ∈ mark, m.IsIn s

variable {above : List Text} {s : Text} {mark : Option Span}

theorem splitOn_unlines_append (h : ∀ l ∈ above, '\n' ∉ l) (s : Text) :
    (Text.unlines above ++ s).splitOn '\n' = above ++ s.splitOn '\n' := by
  have hjoin := Text.joinLines_append above (List.splitOn_ne_nil '\n' s)
  rw [Text.joinLines_splitOn] at hjoin
  rw [← hjoin]
  apply List.splitOn_intercalate
  · intro l hl
    rcases List.mem_append.1 hl with hl | hl
    · exact h l hl
    · exact Text.not_mem_of_mem_splitOn hl
  · exact List.append_ne_nil_of_right_ne_nil above (List.splitOn_ne_nil '\n' s)

/-- A mark behind some lines covers nothing of them. -/
theorem marked_of_mem_above {n : Nat} (h : r ∈ rowsFrom n 0 above) (k : Nat) :
    r.marked (mark.map (·.shift (Text.unlines above).size)) k = [] := by
  cases mark with
  | none => rfl
  | some m =>
      obtain ⟨p, q, hjoin, hoffset⟩ := exists_of_mem_rowsFrom h
      have hne : above ≠ [] := by
        rintro rfl
        cases h
      have hsize := congrArg Text.size (Text.unlines_eq_joinLines hne)
      rw [hjoin] at hsize
      simp only [Text.size_append] at hsize
      apply Span.coveredFrom_of_outside
      simp only [Span.shift]
      omega

namespace Holds

variable (h : e.Holds above s mark)

include h

theorem rows_eq : e.rows = rowsFrom e.startLine 0 above ++
    (rowsFrom (e.startLine + above.length) 0 (s.splitOn '\n')).map
      (·.shift (Text.unlines above).size) := by
  rw [rows, h.text, splitOn_unlines_append h.lines, rowsFrom_append, ← rowsFrom_add]

/-- Every row has a place in the text of the excerpt, in which the emphasised part lies. -/
theorem exists_place (hr : r ∈ e.rows) :
    ∃ p q, (∀ m ∈ e.emphasis, m.IsIn (p ++ r.text ++ q)) ∧ r.offset = p.size := by
  obtain ⟨p, q, hjoin, hoffset⟩ := exists_of_mem_rowsFrom hr
  refine ⟨p, q, fun m hm => ?_, by omega⟩
  rw [h.emphasis] at hm
  obtain ⟨m', hm', rfl⟩ := Option.map_eq_some_iff.1 hm
  rw [← hjoin, Text.joinLines_splitOn, h.text]
  exact (h.mark m' hm').shift _

theorem inked_rowLine (hescape : '\x1b' ∉ e.text) (hr : r ∈ e.rows) :
    inked .emphasis ((e.rowLine r).paint true) = (r.marked e.emphasis 0).map (·.2) := by
  obtain ⟨p, q, hin, hoffset⟩ := h.exists_place hr
  have hline : e.rowLine r ∈ e.lines false := by
    rw [lines_false]
    exact List.mem_map_of_mem hr
  have hclean : '\x1b' ∉ (e.rowLine r).text := by
    refine not_mem_lines isControl_escape (fun s hs hc => ?_) false _ hline
    exact hescape (Text.subset_of_mem_splitOn hs hc)
  rw [Line.inked_paint hclean, textIn_rowLine hin hoffset 0]

theorem inked_rowLine_above (hescape : '\x1b' ∉ e.text) (hr : r ∈ rowsFrom e.startLine 0 above) :
    inked .emphasis ((e.rowLine r).paint true) = [] := by
  have hmem : r ∈ e.rows := by
    rw [h.rows_eq]
    exact List.mem_append_left _ hr
  rw [h.inked_rowLine hescape hmem, h.emphasis, marked_of_mem_above hr]
  rfl

theorem coloured (hescape : '\x1b' ∉ e.text) :
    (e.lines false).flatMap (fun l => inked .emphasis (l.paint true)) =
      ((mark.bind (·.slice? s)).getD []).filter (· ≠ '\n') := by
  have habove : (rowsFrom e.startLine 0 above).flatMap
      (fun r => inked .emphasis ((e.rowLine r).paint true)) = [] :=
    List.flatMap_eq_nil_iff.2 fun r hr => h.inked_rowLine_above hescape hr
  have hshown : ∀ r ∈ rowsFrom (e.startLine + above.length) 0 (s.splitOn '\n'),
      inked .emphasis ((e.rowLine (r.shift (Text.unlines above).size)).paint true) =
        (r.marked mark 0).map (·.2) := by
    intro r hr
    have hmem : r.shift (Text.unlines above).size ∈ e.rows := by
      rw [h.rows_eq]
      exact List.mem_append_right _ (List.mem_map_of_mem hr)
    rw [h.inked_rowLine hescape hmem, h.emphasis, Row.marked_shift]
  rw [lines_false, List.flatMap_map, h.rows_eq, List.flatMap_append, habove, List.nil_append,
    List.flatMap_map, List.flatMap_congr hshown]
  cases hmark : mark with
  | none => exact List.flatMap_eq_nil_iff.2 fun r hr => rfl
  | some m =>
      obtain ⟨inside, hinside⟩ :=
        Option.isSome_iff_exists.1 (Span.isIn_iff_isSome_slice?.1 (h.mark m hmark))
      have hclean : ∀ l ∈ s.splitOn '\n', '\n' ∉ l := fun l hl => Text.not_mem_of_mem_splitOn hl
      have hrows := flatMap_coveredFrom_rowsFrom m hclean (e.startLine + above.length) 0
      rw [Text.joinLines_splitOn, Span.map_snd_coveredFrom_of_slice? hinside] at hrows
      rw [Option.bind_some, hinside]
      exact hrows

theorem underlined : ∃ before shown,
    (e.lines true).map (Line.paint false) = (before ++ shown).flatten ∧
    List.Forall₂ (e.Underlines none) (rowsFrom e.startLine 0 above) before ∧
    List.Forall₂ (e.Underlines mark)
      (rowsFrom (e.startLine + above.length) 0 (s.splitOn '\n')) shown := by
  have hrow : ∀ r ∈ e.rows, e.Underlines e.emphasis r
      ((e.rowLines true r).map (Line.paint false)) := by
    intro r hr
    obtain ⟨p, q, hin, hoffset⟩ := h.exists_place hr
    exact underlines_rowLines hin hoffset
  rw [h.rows_eq, h.emphasis, List.forall_mem_append, List.forall_mem_map] at hrow
  refine ⟨(rowsFrom e.startLine 0 above).map fun r => (e.rowLines true r).map (Line.paint false),
    (rowsFrom (e.startLine + above.length) 0 (s.splitOn '\n')).map fun r =>
      (e.rowLines true (r.shift (Text.unlines above).size)).map (Line.paint false), ?_, ?_, ?_⟩
  · rw [Excerpt.lines, h.rows_eq, List.map_flatMap, List.flatMap_append, List.flatMap_map,
      List.flatten_append]
    rfl
  · rw [List.forall₂_map_right_iff, List.forall₂_same]
    intro r hr
    have hunderlines := hrow.1 r hr
    unfold Underlines Row.columns at hunderlines ⊢
    rwa [marked_of_mem_above hr] at hunderlines
  · rw [List.forall₂_map_right_iff, List.forall₂_same]
    intro r hr
    have hunderlines := hrow.2 r hr
    unfold Underlines Row.columns at hunderlines ⊢
    rwa [Row.marked_shift] at hunderlines

/-- An excerpt that holds a text shows it with its mark. -/
theorem shows (hescape : '\x1b' ∉ e.text) : e.Shows above s mark := by
  constructor
  case isPart => exact fun m hm => Span.isIn_iff_isSome_slice?.1 (h.mark m hm)
  case coloured => exact h.coloured hescape
  case underlined => exact h.underlined

/-- A marked text of one line has no share in the lines above. -/
theorem inked_of_mem_dropLast (hescape : '\x1b' ∉ e.text) (hs : '\n' ∉ s) :
    ∀ l ∈ (e.lines false).dropLast, inked .emphasis (l.paint true) = [] := by
  rw [lines_false, h.rows_eq, List.splitOn_eq_singleton hs]
  simp only [rowsFrom, List.map_cons, List.map_nil, List.map_append, List.dropLast_concat,
    List.forall_mem_map]
  exact fun r hr => h.inked_rowLine_above hescape hr

end Holds
end Excerpt
end TypeReport
