import TypeReport.Proofs.MapM
import TypeReport.Proofs.Position.LineTable
import TypeReport.Proofs.Position.Scan

/-! # The spans of lines

The lines of a table partition its text.  What the table tells of a line is the piece of the
text between two of its line feeds (`text?_ofText`), and these pieces, put together with a
line feed between each two, are the text.  A line starts at or before an offset just if it
is not behind the line of the offset (`start_le_iff`), and it stops one byte before the next
one starts.  So among all lines only that of the offset has the offset in its span or at its
end (`reaches_iff`). -/

namespace TypeReport

/-- Whether an offset lies in a span or at its end. -/
def Span.Reaches (r : Span) (n : Nat) : Prop := r.start ≤ n ∧ n ≤ r.stop

namespace LineTable

open Excerpt

/-- The part of the text `s` that a line covers, if it can be cut out. -/
def text? (t : LineTable) (s : Text) (line : Nat) : Option Text :=
  (t.range? s line).bind (·.slice? s)

/-! ### Lines as pieces of the text -/

theorem lineCount_eq_length (s : Text) : (ofText s).lineCount = (s.splitOn '\n').length := by
  rw [lineCount_ofText s 1, length_rowsFrom]

theorem text?_ofText (s : Text) (k : Nat) : (ofText s).text? s (k + 1) = (s.splitOn '\n')[k]? := by
  have htext : (s.splitOn '\n')[k]? = (rowsFrom 1 0 (s.splitOn '\n'))[k]?.map Row.text := by
    rw [← List.getElem?_map, map_text_rowsFrom]
  rw [text?, range?_ofText s 1, htext]
  cases hrow : (rowsFrom 1 0 (s.splitOn '\n'))[k]? with
  | none => rfl
  | some r => exact slice?_span_of_mem_rowsFrom (List.mem_of_getElem? hrow)

theorem isSome_range?_iff {s : Text} {line : Nat} :
    ((ofText s).range? s line).isSome = true ↔ 1 ≤ line ∧ line ≤ (ofText s).lineCount := by
  cases line with
  | zero => simp [range?]
  | succ k =>
      rw [range?_ofText s 1, lineCount_ofText s 1, Option.isSome_map, Option.isSome_iff_ne_none,
        Ne, List.getElem?_eq_none_iff]
      omega

theorem exists_slice?_of_range? {s : Text} {line : Nat} {r : Span}
    (h : (ofText s).range? s line = some r) : ∃ l, r.slice? s = some l ∧ '\n' ∉ l := by
  cases line with
  | zero => cases h
  | succ k =>
      have htext := text?_ofText s k
      rw [text?, h, Option.bind_some] at htext
      cases hl : (s.splitOn '\n')[k]? with
      | none =>
          have hsome := isSome_range?_iff.1 (Option.isSome_of_eq_some h)
          have hlength := List.getElem?_eq_none_iff.1 hl
          rw [lineCount_eq_length] at hsome
          omega
      | some l =>
          exact ⟨l, htext.trans hl, Text.not_mem_of_mem_splitOn (List.mem_of_getElem? hl)⟩

/-- All lines can be cut out, and are the text again with a line feed between each two. -/
theorem exists_mapM_text? (s : Text) :
    ∃ ls, (List.range' 1 (ofText s).lineCount).mapM ((ofText s).text? s) = some ls ∧
      Text.joinLines ls = s := by
  refine ⟨s.splitOn '\n', ?_, Text.joinLines_splitOn s⟩
  have hlines : ∀ k l, (s.splitOn '\n')[k]? = some l → (ofText s).text? s (1 + k) = some l := by
    intro k l hl
    rw [Nat.add_comm, text?_ofText, hl]
  have hloop := mapM_range'_eq_some_map (g := id) hlines
  rwa [List.map_id, ← lineCount_eq_length] at hloop

/-! ### The line of an offset -/

section

variable {t : LineTable} {s : Text} {k m m' n : Nat}

/-- Bisecting a table for an offset passes the entries that are at most the offset. -/
theorem lt_rank_iff (h : t.starts[k]? = some m) :
    k < rank t.starts n 0 t.starts.size ↔ m ≤ n := by
  have hbrackets := brackets_rank t.increasing (brackets_all t.starts n)
  have hentry : t.starts.toList[k]? = some m := by rwa [Array.getElem?_toList]
  constructor
  · intro hlt
    apply hbrackets.before
    apply List.mem_of_getElem? (i := k)
    rw [List.getElem?_take_of_lt hlt, hentry]
  · intro hle
    apply Nat.lt_of_not_le
    intro hrank
    have hlt : n < m := by
      apply hbrackets.behind
      apply List.mem_of_getElem? (i := k - rank t.starts n 0 t.starts.size)
      rw [List.getElem?_drop, Nat.add_sub_of_le hrank, hentry]
    omega

theorem start_lt_start (h : t.starts[k]? = some m) (h' : t.starts[k + 1]? = some m') : m < m' := by
  have hsorted := t.increasing
  rw [List.pairwise_iff_getElem] at hsorted
  obtain ⟨hk, rfl⟩ := Array.getElem?_eq_some_iff.1 h
  obtain ⟨hk', rfl⟩ := Array.getElem?_eq_some_iff.1 h'
  exact hsorted k (k + 1) hk hk' (Nat.lt_succ_self k)

theorem starts_ofText_zero (s : Text) : (ofText s).starts[0]? = some 0 := rfl

/-- A line starts at or before an offset just if it is not behind the line of the offset. -/
theorem start_le_iff (h : (ofText s).starts[k]? = some m) : m ≤ n ↔ k < (ofText s).line n := by
  have hfirst := (lt_rank_iff (n := n) (starts_ofText_zero s)).2 (Nat.zero_le n)
  have hline := lt_rank_iff (n := n) h
  rw [line]
  omega

theorem line_le_lineCount (s : Text) (n : Nat) : (ofText s).line n ≤ (ofText s).lineCount := by
  have hrank := (brackets_rank (ofText s).increasing (brackets_all _ n)).within
  obtain ⟨hsize, -⟩ := Array.getElem?_eq_some_iff.1 (starts_ofText_zero s)
  rw [line, lineCount]
  omega

theorem range?_of_start (t : LineTable) (s : Text) (h : t.starts[k]? = some m) :
    t.range? s (k + 1) = some ⟨m, max m (t.starts[k + 1]?.elim s.size (· - 1))⟩ := by
  rw [range?, if_neg (Nat.succ_ne_zero k), Nat.add_sub_cancel, h]
  rfl

/-- An offset lies between the start of its line and the next line, and no other. -/
theorem reaches_of_start (h : (ofText s).starts[k]? = some m) (hn : n ≤ s.size) :
    Span.Reaches ⟨m, max m ((ofText s).starts[k + 1]?.elim s.size (· - 1))⟩ n ↔
      k + 1 = (ofText s).line n := by
  have hstart := start_le_iff (n := n) h
  unfold Span.Reaches
  cases hnext : (ofText s).starts[k + 1]? with
  | none =>
      -- The last line stops where the text does.
      have hlast : (ofText s).lineCount ≤ k + 1 := Array.getElem?_eq_none_iff.1 hnext
      have hline := line_le_lineCount s n
      simp only [Option.elim_none]
      omega
  | some m' =>
      have hbehind := start_le_iff (n := n) hnext
      have hlt := start_lt_start h hnext
      simp only [Option.elim_some]
      omega

/-- The line of an offset is the only one that has it in its span or at its end. -/
theorem reaches_iff (hn : n ≤ s.size) {line : Nat} :
    (∃ r, (ofText s).range? s line = some r ∧ r.Reaches n) ↔ line = (ofText s).line n := by
  cases line with
  | zero =>
      have hpos : 1 ≤ (ofText s).line n := Nat.le_max_left 1 _
      refine iff_of_false ?_ (by omega)
      rintro ⟨r, hr, -⟩
      cases hr
  | succ k =>
      cases hstart : (ofText s).starts[k]? with
      | none =>
          have hsize : (ofText s).lineCount ≤ k := Array.getElem?_eq_none_iff.1 hstart
          have hline := line_le_lineCount s n
          refine iff_of_false ?_ (by omega)
          rintro ⟨r, hr, -⟩
          have hcount := (isSome_range?_iff.1 (Option.isSome_of_eq_some hr)).2
          omega
      | some m =>
          rw [range?_of_start _ s hstart, ← reaches_of_start hstart hn]
          simp

end

/-- The lines of a text are those from one up to their number.  Each is cut out of the text without
a line feed, all of them together, with a line feed between each two, are the text, and every offset
up to the end of the text is in the span of its line, or at the end of it, and of no other. -/
theorem lines_partition (s : Text) :
    (∀ line, ((ofText s).range? s line).isSome = true ↔
      1 ≤ line ∧ line ≤ (ofText s).lineCount) ∧
    (∀ line r, (ofText s).range? s line = some r → ∃ l, r.slice? s = some l ∧ '\n' ∉ l) ∧
    (∃ ls, (List.range' 1 (ofText s).lineCount).mapM ((ofText s).text? s) = some ls ∧
      Text.joinLines ls = s) ∧
    ∀ n ≤ s.size, ∀ line,
      (∃ r, (ofText s).range? s line = some r ∧ r.Reaches n) ↔ line = (ofText s).line n :=
  ⟨fun _ => isSome_range?_iff, fun _ _ => exists_slice?_of_range?, exists_mapM_text? s,
    fun _ hn _ => reaches_iff hn⟩

/-- An offset at a line feed belongs to the line that the line feed ends. -/
theorem lines_partition_at_feed :
    (ofText "a\né\n".toList).range? "a\né\n".toList 2 = some ⟨2, 4⟩ ∧
    (∃ l, Span.slice? ⟨2, 4⟩ "a\né\n".toList = some l ∧ '\n' ∉ l) ∧
    4 ≤ Text.size "a\né\n".toList ∧ 2 = (ofText "a\né\n".toList).line 4 := by
  have hrange : (ofText "a\né\n".toList).range? "a\né\n".toList 2 = some ⟨2, 4⟩ := by decide
  have hsize : 4 ≤ Text.size "a\né\n".toList := by decide
  obtain ⟨-, hslice, -, hline⟩ := lines_partition "a\né\n".toList
  exact ⟨hrange, hslice 2 _ hrange, hsize, (hline 4 hsize 2).1 ⟨_, hrange, by decide, by decide⟩⟩

end LineTable
end TypeReport
