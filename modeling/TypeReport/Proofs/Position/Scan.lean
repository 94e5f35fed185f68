import TypeReport.Position.LineTable
import TypeReport.Proofs.Span
import TypeReport.Proofs.Text.LineFeeds

/-! # Line tables against the scan

A line table is bisected for an offset as it stands, while the scan rounds the offset down
to a character boundary and counts the line feeds before it.  Bisecting counts the entries
that are at most the offset (`rank_eq_countP`), because the entries increase.  In the table
of a text these are the starts of the lines up to the rounded offset
(`toList_starts_ofText`): no line feed ends between the rounded offset and the offset.  So
the table and the scan agree on every offset of every text (`agrees_with_scan`). -/

namespace TypeReport.LineTable

open Text

/-! ### Bisection -/

/-- Whether the entries of an array before `lo` are at most `x`, and those from `hi` on are beyond
it. -/
structure Brackets (xs : Array Nat) (x lo hi : Nat) : Prop where
  ordered : lo ≤ hi
  within : hi ≤ xs.size
  before : ∀ m ∈ xs.toList.take lo, m ≤ x
  behind : ∀ m ∈ xs.toList.drop hi, x < m

section
variable {xs : Array Nat} {x lo mid hi : Nat}

theorem exists_parts (h : mid < xs.size) :
    ∃ a b, xs.toList = a ++ xs.getD mid 0 :: b ∧ a.length = mid := by
  have hlength : mid < xs.toList.length := by rwa [Array.length_toList]
  have hentry : xs.getD mid 0 = xs.toList[mid] := by
    rw [Array.getD_eq_getD_getElem?, Array.getElem?_eq_getElem h, Option.getD_some,
      Array.getElem_toList]
  refine ⟨xs.toList.take mid, xs.toList.drop (mid + 1), ?_, ?_⟩
  · rw [hentry, List.cons_getElem_drop_succ, List.take_append_drop]
  · rw [List.length_take]
    exact Nat.min_eq_left (Nat.le_of_lt hlength)

theorem brackets_all (xs : Array Nat) (x : Nat) : Brackets xs x 0 xs.size := by
  refine ⟨Nat.zero_le _, Nat.le_refl _, ?_, ?_⟩
  · simp
  · simp [← Array.length_toList]

theorem Brackets.right (hxs : xs.toList.Pairwise (· < ·)) (h : Brackets xs x lo hi)
    (hmid : mid < hi) (hle : xs.getD mid 0 ≤ x) : Brackets xs x (mid + 1) hi := by
  obtain ⟨a, b, hparts, rfl⟩ := exists_parts (Nat.lt_of_lt_of_le hmid h.within)
  refine ⟨hmid, h.within, fun m hm => ?_, h.behind⟩
  rw [hparts] at hxs
  rw [hparts, List.append_cons, List.take_left' (by simp), List.mem_append,
    List.mem_singleton] at hm
  rcases hm with hm | rfl
  · have hlt := (List.pairwise_append.1 hxs).2.2 m hm _ List.mem_cons_self
    exact Nat.le_trans (Nat.le_of_lt hlt) hle
  · exact hle

theorem Brackets.left (hxs : xs.toList.Pairwise (· < ·)) (h : Brackets xs x lo hi)
    (hlo : lo ≤ mid) (hmid : mid < hi) (hlt : x < xs.getD mid 0) : Brackets xs x lo mid := by
  have hsize : mid < xs.size := Nat.lt_of_lt_of_le hmid h.within
  obtain ⟨a, b, hparts, rfl⟩ := exists_parts hsize
  refine ⟨hlo, Nat.le_of_lt hsize, h.before, fun m hm => ?_⟩
  rw [hparts] at hxs
  rw [hparts, List.drop_left, List.mem_cons] at hm
  rcases hm with rfl | hm
  · exact hlt
  · have hbehind := (List.pairwise_cons.1 (List.pairwise_append.1 hxs).2.1).1 m hm
    exact Nat.lt_trans hlt hbehind

/-- Bisection ends where the entries that are at most `x` end. -/
theorem brackets_rank (hxs : xs.toList.Pairwise (· < ·)) (h : Brackets xs x lo hi) :
    Brackets xs x (rank xs x lo hi) (rank xs x lo hi) := by
  fun_induction rank xs x lo hi with
  | case1 lo hi hlt mid hle ih => exact ih (h.right hxs (by omega) hle)
  | case2 lo hi hlt mid hle ih =>
      exact ih (h.left hxs (by omega) (by omega) (Nat.not_le.1 hle))
  | case3 lo hi hlt =>
      have heq : hi = lo := Nat.le_antisymm (Nat.not_lt.1 hlt) h.ordered
      rwa [heq] at h

theorem Brackets.eq_countP (h : Brackets xs x lo lo) : lo = xs.toList.countP (· ≤ x) := by
  have hbefore : (xs.toList.take lo).countP (· ≤ x) = lo := by
    rw [List.countP_eq_length.2 (by simpa using h.before), List.length_take, Array.length_toList]
    exact Nat.min_eq_left h.within
  have hbehind : (xs.toList.drop lo).countP (· ≤ x) = 0 :=
    List.countP_eq_zero.2 (by simpa using h.behind)
  rw [← List.take_append_drop lo xs.toList, List.countP_append, hbefore, hbehind, Nat.add_zero]

end

/-- Bisecting a table counts the lines that start at or before an offset. -/
theorem rank_eq_countP (t : LineTable) (n : Nat) :
    rank t.starts n 0 t.starts.size = t.starts.toList.countP (· ≤ n) :=
  (brackets_rank t.increasing (brackets_all t.starts n)).eq_countP

/-! ### The table of a text -/

/-- Up to the greatest boundary that is not beyond `n`, a text has the same line starts as all of
it. -/
theorem toList_starts_ofText (s : Text) (n : Nat) :
    (ofText s).starts.toList = 0 :: (offsets '\n' (s.upTo n)).map (· + 1) ++
      (offsetsFrom '\n' (s.floor n) (s.after n)).map (· + 1) := by
  have hoffsets : offsets '\n' s =
      offsets '\n' (s.upTo n) ++ offsetsFrom '\n' (s.floor n) (s.after n) := by
    have happend := offsetsFrom_append '\n' 0 (s.upTo n) (s.after n)
    rwa [upTo_append_after, Nat.zero_add] at happend
  rw [List.cons_append, ← List.map_append, ← hoffsets]
  rfl

theorem countP_starts_ofText (s : Text) (n : Nat) :
    (ofText s).starts.toList.countP (· ≤ n) = (s.upTo n).count '\n' + 1 := by
  have hbefore : ∀ m ∈ 0 :: (offsets '\n' (s.upTo n)).map (· + 1), decide (m ≤ n) = true := by
    rw [List.forall_mem_cons]
    refine ⟨by simp, fun m hm => ?_⟩
    obtain ⟨k, hk, rfl⟩ := List.mem_map.1 hm
    have hend : k + 1 ≤ s.floor n := add_le_size_of_mem_offsets hk
    exact decide_eq_true (Nat.le_trans hend (floor_le s n))
  have hbehind : ∀ m ∈ (offsetsFrom '\n' (s.floor n) (s.after n)).map (· + 1),
      ¬ decide (m ≤ n) = true := by
    intro m hm
    obtain ⟨k, hk, rfl⟩ := List.mem_map.1 hm
    have hend : n < k + 1 := lt_of_mem_offsetsFrom_after hk
    simpa using hend
  rw [toList_starts_ofText s n, List.countP_append, List.countP_eq_length.2 hbefore,
    List.countP_eq_zero.2 hbehind, Nat.add_zero, List.length_cons, List.length_map, length_offsets]

theorem line_ofText (s : Text) (n : Nat) : (ofText s).line n = Position.lineOfOffset s n := by
  rw [line, rank_eq_countP, countP_starts_ofText, Position.lineOfOffset]
  exact Nat.max_eq_right (Nat.le_add_left 1 _)

/-- The line of an offset starts behind the last line feed before the offset. -/
theorem start_ofText (s : Text) (n : Nat) :
    (ofText s).starts.getD ((ofText s).line n - 1) 0 = (s.upTo n).lastLineStart := by
  have hlast : (0 :: (offsets '\n' (s.upTo n)).map (· + 1)).getLast? =
      some (s.upTo n).lastLineStart := by
    rw [List.getLast?_cons, List.getLast?_map, lastLineStart]
    cases (offsets '\n' (s.upTo n)).getLast? with
    | none => rfl
    | some m => rfl
  have hlength : (0 :: (offsets '\n' (s.upTo n)).map (· + 1)).length = (s.upTo n).count '\n' + 1 := by
    rw [List.length_cons, List.length_map, length_offsets]
  rw [List.getLast?_eq_getElem?, hlength, Nat.add_sub_cancel] at hlast
  rw [line_ofText, Position.lineOfOffset, Nat.add_sub_cancel, Array.getD_eq_getD_getElem?,
    ← Array.getElem?_toList, toList_starts_ofText s n,
    List.getElem?_append_left (by rw [hlength]; exact Nat.lt_succ_self _), hlast, Option.getD_some]

theorem position_ofText (s : Text) (n : Nat) :
    (ofText s).position s n = Position.ofOffset s n := by
  obtain ⟨a, b, hs, hstart, hlength⟩ := exists_lastLine (s.upTo n)
  have hfloor : s.floor n = a.size + b.size := by
    rw [floor, congrArg size hs, size_append]
  have hcut : (Span.mk a.size (s.floor n)).cut? s = some (a, b, s.after n) := by
    refine Span.cut?_eq_some_iff.2 ⟨?_, rfl, ?_⟩
    · rw [← hs, upTo_append_after]
    · rw [hfloor, size_append]
  have hmax : max (s.floor n) a.size = s.floor n := by omega
  rw [position, start_ofText, ← hstart, hmax, Span.slice?, hcut, line_ofText, Position.ofOffset,
    hlength]
  rfl

/-- The table of a text and the scan of it agree on the line and the position of every offset,
wherever it lies.  The line is one more than the line feeds among the bytes before the offset, and
the table has one line more than the text has line feeds. -/
theorem agrees_with_scan (s : Text) (n : Nat) :
    (ofText s).line n = Position.lineOfOffset s n ∧
      (ofText s).line n = (s.bytes.take n).count lfByte + 1 ∧
        (ofText s).position s n = Position.ofOffset s n ∧
          (ofText s).lineCount = s.count '\n' + 1 := by
  refine ⟨line_ofText s n, ?_, position_ofText s n, ?_⟩
  · rw [line_ofText, Position.lineOfOffset, count_take_bytes]
  · have hlength : (ofText s).lineCount = (offsets '\n' s).length + 1 := by
      simp [lineCount, ofText]
    rw [hlength, length_offsets]

end TypeReport.LineTable
