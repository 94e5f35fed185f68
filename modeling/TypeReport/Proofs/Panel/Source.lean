import Mathlib.Data.List.Chain
import TypeReport.Proofs.Diagnostic.Characters
import TypeReport.Proofs.Leading
import TypeReport.Proofs.Panel.Written
import TypeReport.Proofs.Position.LineTable

/-! # The source in a panel

A reader of a panel takes its first lines, down to the first empty one, for the source, and
each of them that has a number before a bar for a line of the source with this number
(`shownLines`).  What is read like that are the rows of the source excerpt
(`shownLines_panel`), which counts its rows up from the first number.  So the source lines
are shown with their own numbers, and the last of them in focus, exactly when their numbers
are consecutive (`shownLines_panel_eq_iff`). -/

namespace TypeReport

/-! ### Reading a panel -/

/-- A source line as a panel shows it, with the number next to it. -/
structure ShownLine where
  isFocused : Bool
  number : Nat
  text : Text
deriving DecidableEq

/-- The source line that a line of a panel shows, if there is a number before a bar in it. -/
def ShownLine.read? (line : Text) : Option ShownLine := do
  let row ← line.after? "│ ".toList
  let (gutter, text) ← row.around? "│ ".toList
  let digits := Text.trim (gutter.drop 1)
  if digits ≠ [] ∧ digits.all Char.isDigit = true then
    some ⟨gutter.head? = some '>', Nat.ofDigitChars 10 digits 0, text⟩
  else none

/-- The source lines that a panel shows. -/
def shownLines (panel : List Text) : List ShownLine :=
  ((panel.drop 1).takeWhile (· ≠ ['│'])).filterMap ShownLine.read?

namespace ShownLine

theorem read?_row {mark : Char} (hmark : mark ≠ '│') (padding number : Nat) (text : Text) :
    read? ("│ ".toList ++ (mark :: ' ' :: (List.replicate padding ' ' ++ Text.ofNat number) ++
      " │ ".toList ++ text)) = some ⟨mark = '>', number, text⟩ := by
  have hbar : '│' ∉ Text.ofNat number := Text.not_mem_ofNat rfl _
  have hclean : '│' ∉ mark :: ' ' :: (List.replicate padding ' ' ++ Text.ofNat number) ++ [' '] := by
    simp [hbar, Ne.symm hmark]
  have hspaces : Text.isBlank (' ' :: List.replicate padding ' ') = true := by
    have hblank : Text.isBlankChar ' ' = true := by decide
    simp [Text.isBlank, hblank]
  have hdigits : Text.trim (' ' :: (List.replicate padding ' ' ++ Text.ofNat number) ++ [' ']) =
      Text.ofNat number :=
    Text.trim_append hspaces (by decide) (Text.isTrimmed_ofNat number)
  have hnumber : Nat.ofDigitChars 10 (Text.ofNat number) 0 = number :=
    Nat.ofDigitChars_toDigits (by decide) (by decide)
  have hsplit : mark :: ' ' :: (List.replicate padding ' ' ++ Text.ofNat number) ++
      " │ ".toList ++ text =
        (mark :: ' ' :: (List.replicate padding ' ' ++ Text.ofNat number) ++ [' ']) ++
          ('│' :: [' '] ++ text) := by simp
  have hfound := Text.around?_append hclean [' '] text
  rw [read?, Text.after?_append, hsplit]
  simp only [Option.bind_eq_bind, Option.bind_some]
  show (Text.around? _ ('│' :: [' '])).bind _ = _
  rw [hfound, Option.bind_some]
  dsimp only
  rw [List.cons_append, List.drop_succ_cons, List.drop_zero, hdigits, hnumber,
    if_pos ⟨Text.ofNat_ne_nil number, Text.all_isDigit_ofNat number⟩, List.head?_cons]
  simp only [Option.some.injEq]

theorem read?_eq_none {s : Text} (h : '│' ∉ s) : read? ("│ ".toList ++ s) = none := by
  have hfound : s.around? "│ ".toList = none :=
    Text.around?_eq_none_iff.2 fun hfactor => h (hfactor.subset List.mem_cons_self)
  rw [read?, Text.after?_append]
  simp only [Option.bind_eq_bind, Option.bind_some, hfound]
  rfl

end ShownLine

/-! ### Excerpts -/

namespace Excerpt

/-- The source line that is read from a row. -/
def shown (e : Excerpt) (r : Row) : ShownLine := ⟨e.isFocused r, r.number, r.text⟩

theorem read?_rowText (e : Excerpt) (r : Row) :
    ShownLine.read? (Panel.boxed (e.rowText r)) = some (e.shown r) := by
  have hmark : (if e.isFocused r then '>' else ' ') ≠ '│' := by
    split <;> decide
  have hfocus : decide ((if e.isFocused r then '>' else ' ') = '>') = e.isFocused r := by
    cases e.isFocused r <;> rfl
  have hne : e.rowText r ≠ [] := List.cons_ne_nil _ _
  rw [Panel.boxed_eq hne, shown, ← hfocus]
  exact ShownLine.read?_row hmark (e.numberWidth - (Text.ofNat r.number).length) r.number r.text

/-- The lines of a row show the row and nothing else. -/
theorem filterMap_read?_rowLines (e : Excerpt) (r : Row) :
    (((e.rowLines true r).map Line.text).map Panel.boxed).filterMap ShownLine.read? =
      [e.shown r] := by
  rcases map_text_rowLines_cases true e r with hlines | ⟨m, n, hlines⟩
  · rw [hlines, List.map_singleton, List.filterMap_cons_some (e.read?_rowText r), List.filterMap_nil]
  · have hne : List.replicate ((e.gutter r).length + m) ' ' ++ List.replicate n '^' ≠ [] := by
      simp [gutter]
    have hcarets := ShownLine.read?_eq_none
      (s := List.replicate ((e.gutter r).length + m) ' ' ++ List.replicate n '^') (by simp)
    rw [← Panel.boxed_eq hne] at hcarets
    rw [hlines, List.map_cons, List.map_singleton, List.filterMap_cons_some (e.read?_rowText r),
      List.filterMap_cons_none hcarets, List.filterMap_nil]

theorem filterMap_read?_lines (e : Excerpt) :
    (((e.lines true).map Line.text).map Panel.boxed).filterMap ShownLine.read? =
      e.rows.map e.shown := by
  rw [lines, List.map_flatMap, List.map_flatMap, List.filterMap_flatMap]
  simp only [filterMap_read?_rowLines]
  exact List.map_eq_flatMap.symm

theorem text_ne_nil_of_mem_lines {e : Excerpt} {l : Line} (h : l ∈ e.lines true) :
    l.text ≠ [] := by
  obtain ⟨r, -, htext | ⟨m, n, htext⟩⟩ := text_cases_of_mem_lines h
  · rw [htext]
    exact List.cons_ne_nil _ _
  · rw [htext]
    simp [gutter]

end Excerpt

/-! ### Diagnostics -/

namespace Diagnostic

theorem kindSections_ne_nil (k : Kind) : kindSections k ≠ [] := by
  cases k <;> exact List.cons_ne_nil _ _

/-- The source that is read from a panel are the rows of the source excerpt. -/
theorem shownLines_panel {t : Terminal} (ht : t.colours = false) (index : Nat) {e : Diagnostic}
    {x : Excerpt} (hx : e.sourceExcerpt? = some x) :
    shownLines (t.panel index e) = x.rows.map x.shown := by
  have hsections : e.sections = .excerpt x :: kindSections e.kind := by
    rw [sections, hx]
    rfl
  have hbody := Panel.body_cons true (.excerpt x) (kindSections_ne_nil e.kind)
  have hlines : ∀ s ∈ ((x.lines true).map Line.text).map Panel.boxed, decide (s ≠ ['│']) = true := by
    simp only [List.forall_mem_map]
    intro l hl
    rw [Panel.boxed_eq (Excerpt.text_ne_nil_of_mem_lines hl)]
    simp
  rw [shownLines, Terminal.panel_eq ht, hsections, hbody, List.cons_append, List.drop_succ_cons,
    List.drop_zero, List.map_append, List.map_append, List.append_assoc,
    ← x.filterMap_read?_lines]
  congr 1
  apply takeWhile_append_eq hlines
  intro s hs
  cases hs
  rfl

/-- The source lines with their own numbers, the last of them in focus. -/
def sourceLines (e : Diagnostic) : List ShownLine :=
  e.snippet.mapIdx fun i l => ⟨i + 1 = e.snippet.length, l.number, l.text⟩

theorem map_rowsFrom_snippet {α : Type} (f : Nat → Text → α) (n o : Nat) (ls : List SourceLine) :
    (Excerpt.rowsFrom n o (ls.map (·.text))).map (fun r => f r.number r.text) =
      ls.mapIdx fun i l => f (n + i) l.text := by
  have hrows := congrArg (List.map fun p : Text × Nat => f p.2 p.1)
    (Excerpt.map_rowsFrom n o (ls.map (·.text)))
  rw [List.map_map, List.zipIdx_map, List.zipIdx_eq_map_add, List.map_map, List.map_map] at hrows
  rw [List.mapIdx_eq_zipIdx_map]
  exact hrows

/-- Lines have consecutive numbers if each has the number of the first and its place together. -/
theorem isChain_number_iff {ls : List SourceLine} {first : SourceLine}
    (hfirst : ls.head? = some first) :
    ls.IsChain (fun l m => m.number = l.number + 1) ↔
      ∀ i (h : i < ls.length), ls[i].number = first.number + i := by
  rw [List.isChain_iff_getElem]
  constructor
  · intro h i hi
    induction i with
    | zero =>
        rw [List.head?_eq_getElem?, List.getElem?_eq_getElem hi] at hfirst
        cases hfirst
        rfl
    | succ i ih =>
        rw [h i hi, ih (Nat.lt_of_succ_lt hi), Nat.add_assoc]
  · intro h i hi
    rw [h (i + 1) hi, h i (Nat.lt_of_succ_lt hi), Nat.add_assoc]

variable {e : Diagnostic} {first last : SourceLine}

/-- The source excerpt has a row for each source line, and looks for the number of the last. -/
theorem exists_sourceExcerpt? (hfirst : e.snippet.head? = some first)
    (hlast : e.snippet.getLast? = some last) (hclean : ∀ line ∈ e.snippet, '\n' ∉ line.text) :
    ∃ x, e.sourceExcerpt? = some x ∧
      x.rows = Excerpt.rowsFrom first.number 0 (e.snippet.map (·.text)) ∧
      x.focusLine = some last.number := by
  have hne : e.snippet.map (·.text) ≠ [] := by
    intro hnil
    rw [List.map_eq_nil_iff.1 hnil] at hfirst
    cases hfirst
  obtain ⟨x, hx⟩ : ∃ x, e.sourceExcerpt? = some x := by
    rw [sourceExcerpt?, hfirst]
    exact ⟨_, rfl⟩
  refine ⟨x, hx, ?_⟩
  rw [sourceExcerpt?, hfirst] at hx
  cases hx
  constructor
  · rw [Excerpt.rows, Text.joinLines, List.splitOn_intercalate]
    · rwa [List.forall_mem_map]
    · exact hne
  · rw [focusLine?, hlast]
    rfl

theorem isChain_number_iff_mapIdx (hfirst : e.snippet.head? = some first)
    (hlast : e.snippet.getLast? = some last) :
    (e.snippet.mapIdx fun i l =>
        (⟨first.number + i = last.number, first.number + i, l.text⟩ : ShownLine)) =
      e.sourceLines ↔ e.snippet.IsChain fun l m => m.number = l.number + 1 := by
  rw [sourceLines, List.mapIdx_eq_mapIdx_iff, isChain_number_iff hfirst]
  constructor
  · intro h i hi
    exact (congrArg ShownLine.number (h i hi)).symm
  · intro h i hi
    have hpos : e.snippet.length - 1 < e.snippet.length := by omega
    have hnumber : last.number = first.number + (e.snippet.length - 1) := by
      rw [List.getLast?_eq_getElem?, List.getElem?_eq_getElem hpos] at hlast
      rw [← h _ hpos, Option.some.inj hlast]
    have hfocus : decide (first.number + i = last.number) = decide (i + 1 = e.snippet.length) :=
      decide_eq_decide.2 (by omega)
    rw [hfocus, h i hi]

/-- A panel shows the source lines with numbers that are counted up from the first, and in focus is
the one whose number, counted like that, is the number of the last.  So it shows each source line
with its own number, and the last of them in focus, exactly when their numbers are consecutive. -/
theorem shownLines_panel_eq_iff {d : Dialect} {style : PathStyle} {b : Block}
    (h : parse d style b = .ok e) (hfirst : e.snippet.head? = some first)
    (hlast : e.snippet.getLast? = some last) {t : Terminal} (ht : t.colours = false) (index : Nat) :
    shownLines (t.panel index e) = (e.snippet.mapIdx fun i l =>
      ⟨first.number + i = last.number, first.number + i, l.text⟩) ∧
    (shownLines (t.panel index e) = e.sourceLines ↔
      e.snippet.IsChain fun l m => m.number = l.number + 1) := by
  have hclean : ∀ line ∈ e.snippet, '\n' ∉ line.text := fun line => lf_not_mem_of_mem_snippet h
  obtain ⟨x, hx, hrows, hfocus⟩ := exists_sourceExcerpt? hfirst hlast hclean
  have hshown : shownLines (t.panel index e) = (e.snippet.mapIdx fun i l =>
      ⟨first.number + i = last.number, first.number + i, l.text⟩) := by
    have hrow : x.shown = fun r =>
        ⟨r.number = last.number, r.number, r.text⟩ := by
      funext r
      simp only [Excerpt.shown, Excerpt.isFocused, hfocus, Option.some.injEq, eq_comm]
    rw [shownLines_panel ht index hx, hrows, hrow]
    exact map_rowsFrom_snippet (fun n s => ShownLine.mk (n = last.number) n s) first.number 0 e.snippet
  refine ⟨hshown, ?_⟩
  rw [hshown]
  exact isChain_number_iff_mapIdx hfirst hlast

/-- Two consecutive lines whose numbers differ in width, and carets. -/
theorem shownLines_panel_eq_iff_ten :
    ∃ e, parse .ocaml4 id
        ⟨0, "File \"a\", line 9:\n9 | x\n10 | y\n     ^\nError: z".toList⟩ = .ok e ∧
      e.snippet.head? = some ⟨9, ['x']⟩ ∧ e.snippet.getLast? = some ⟨10, ['y']⟩ ∧
      (Terminal.withWidth false 80).colours = false ∧
      shownLines ((Terminal.withWidth false 80).panel 0 e) =
        [⟨false, 9, ['x']⟩, ⟨true, 10, ['y']⟩] := by
  have hparse : parse .ocaml4 id
      ⟨0, "File \"a\", line 9:\n9 | x\n10 | y\n     ^\nError: z".toList⟩ =
      .ok ⟨⟨['a'], 9, 9, none, none⟩, [⟨9, ['x']⟩, ⟨10, ['y']⟩], some ⟨0, 1⟩,
        .plain "Error: z".toList⟩ := by decide +kernel
  have hshown := shownLines_panel_eq_iff hparse rfl rfl (t := Terminal.withWidth false 80) rfl 0
  exact ⟨_, hparse, rfl, rfl, rfl, hshown.2.2 (by simp)⟩

/-- A line is left out between two source lines.  The second is shown with the number of the missing
line, and neither is in focus. -/
theorem shownLines_panel_ne_gap :
    ∃ e, parse .ocaml4 id ⟨0, "File \"a\", line 3:\n3 | a\n5 | b\nError: x".toList⟩ = .ok e ∧
      e.snippet ≠ [] ∧ (Terminal.withWidth false 80).colours = false ∧
      shownLines ((Terminal.withWidth false 80).panel 0 e) =
        [⟨false, 3, ['a']⟩, ⟨false, 4, ['b']⟩] ∧
      shownLines ((Terminal.withWidth false 80).panel 0 e) ≠ e.sourceLines := by
  have hparse : parse .ocaml4 id ⟨0, "File \"a\", line 3:\n3 | a\n5 | b\nError: x".toList⟩ =
      .ok ⟨⟨['a'], 3, 3, none, none⟩, [⟨3, ['a']⟩, ⟨5, ['b']⟩], none, .plain "Error: x".toList⟩ := by
    decide +kernel
  exact ⟨_, hparse, by decide, rfl, by decide +kernel, by decide +kernel⟩

end Diagnostic
end TypeReport
