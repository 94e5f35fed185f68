import TypeReport.Panel.Excerpt
import TypeReport.Proofs.Text.Lines
import TypeReport.Proofs.Text.Offsets

/-! # Rows of a text

Consecutive rows are lines with their numbers (`map_rowsFrom`), and each knows where it starts,
how long it is and what it says: a row starts at the start of the text or behind one of its
line feeds (`map_offset_rowsFrom`), it ends where the next line feed stands
(`stop_rowsFrom`), and between them stand its characters (`slice?_span_of_mem_rowsFrom`). -/

namespace TypeReport

/-- A row that starts `n` bytes later. -/
def Row.shift (r : Row) (n : Nat) : Row := { r with offset := r.offset + n }

namespace Excerpt

variable {n o k : Nat} {r : Row} {ls : List Text}

theorem map_rowsFrom (number offset : Nat) (ls : List Text) :
    (rowsFrom number offset ls).map (fun r => (r.text, r.number)) = ls.zipIdx number := by
  induction ls generalizing number offset with
  | nil => rfl
  | cons l ls ih => rw [rowsFrom, List.map_cons, ih, List.zipIdx_cons]

theorem map_text_rowsFrom (number offset : Nat) (ls : List Text) :
    (rowsFrom number offset ls).map Row.text = ls := by
  have hrows := congrArg (List.map Prod.fst) (map_rowsFrom number offset ls)
  rwa [List.map_map, List.zipIdx_map_fst] at hrows

theorem length_rowsFrom (n o : Nat) (ls : List Text) : (rowsFrom n o ls).length = ls.length := by
  rw [← List.length_map Row.text, map_text_rowsFrom]

theorem number_rowsFrom (h : (rowsFrom n o ls)[k]? = some r) : r.number = n + k := by
  have hrow := congrArg (·[k]?) (map_rowsFrom n o ls)
  simp only [List.getElem?_map, h, Option.map_some, List.getElem?_zipIdx] at hrow
  obtain ⟨l, -, heq⟩ := Option.map_eq_some_iff.1 hrow.symm
  exact (congrArg Prod.snd heq).symm

theorem rowsFrom_append (n o : Nat) (ls ms : List Text) :
    rowsFrom n o (ls ++ ms) =
      rowsFrom n o ls ++ rowsFrom (n + ls.length) (o + (Text.unlines ls).size) ms := by
  induction ls generalizing n o with
  | nil => rfl
  | cons l ls ih =>
      have hnumber : n + 1 + ls.length = n + (l :: ls).length := by
        rw [List.length_cons]
        omega
      have hoffset : o + l.size + 1 + (Text.unlines ls).size =
          o + (Text.unlines (l :: ls)).size := by
        rw [Text.unlines_cons, Text.size_append, Text.size_line]
        omega
      rw [List.cons_append, rowsFrom, rowsFrom, ih, hnumber, hoffset, List.cons_append]

theorem rowsFrom_add (n o m : Nat) (ls : List Text) :
    rowsFrom n (o + m) ls = (rowsFrom n o ls).map (·.shift m) := by
  induction ls generalizing n o with
  | nil => rfl
  | cons l ls ih =>
      have hoffset : o + m + l.size + 1 = o + l.size + 1 + m := by omega
      rw [rowsFrom, rowsFrom, List.map_cons, hoffset, ih]
      rfl

/-- A row of some lines has a place in their text, which its offset tells. -/
theorem exists_of_mem_rowsFrom {n o : Nat} {ls : List Text} (h : r ∈ rowsFrom n o ls) :
    ∃ p q, Text.joinLines ls = p ++ r.text ++ q ∧ r.offset = o + p.size := by
  induction ls generalizing n o with
  | nil => cases h
  | cons l ls ih =>
      rcases List.mem_cons.1 h with rfl | h
      · cases ls with
        | nil => exact ⟨[], [], (Text.joinLines_singleton l).trans (by simp), rfl⟩
        | cons m ls =>
            refine ⟨[], ['\n'] ++ Text.joinLines (m :: ls), ?_, rfl⟩
            rw [Text.joinLines_cons_cons, List.append_assoc, List.nil_append]
      · obtain ⟨p, q, hjoin, hoffset⟩ := ih h
        cases ls with
        | nil => cases h
        | cons m ls =>
            refine ⟨l ++ ['\n'] ++ p, q, ?_, ?_⟩
            · rw [Text.joinLines_cons_cons, hjoin]
              simp only [List.append_assoc]
            · rw [hoffset, Text.size_append, Text.size_line]
              omega

/-- A row starts at the start of the text or behind one of its line feeds. -/
theorem map_offset_rowsFrom (hne : ls ≠ []) (h : ∀ l ∈ ls, '\n' ∉ l) (n o : Nat) :
    (rowsFrom n o ls).map Row.offset =
      o :: (Text.offsetsFrom '\n' o (Text.joinLines ls)).map (· + 1) := by
  induction ls generalizing n o with
  | nil => exact absurd rfl hne
  | cons l ls ih =>
      rw [List.forall_mem_cons] at h
      rw [rowsFrom, List.map_cons]
      cases ls with
      | nil =>
          rw [Text.joinLines_singleton, Text.offsetsFrom_eq_nil h.1]
          rfl
      | cons m ls =>
          have hfeed : Text.offsetsFrom '\n' (o + l.size) ['\n'] = [o + l.size] := rfl
          rw [ih (List.cons_ne_nil m ls) h.2, Text.joinLines_cons_cons, Text.offsetsFrom_append,
            Text.offsetsFrom_append, Text.offsetsFrom_eq_nil h.1, List.nil_append, hfeed,
            Text.size_line, ← Nat.add_assoc]
          rfl

/-- A row ends where the line feed before the next row stands, the last one where the text ends. -/
theorem stop_rowsFrom (h : (rowsFrom n o ls)[k]? = some r) :
    ((rowsFrom n o ls)[k + 1]?.map Row.offset).elim (o + (Text.joinLines ls).size) (· - 1) =
      r.offset + r.text.size := by
  induction ls generalizing n o k with
  | nil => cases h
  | cons l ls ih =>
      rw [rowsFrom, List.getElem?_cons_succ]
      cases ls with
      | nil =>
          cases k with
          | succ k => cases h
          | zero =>
              cases h
              rw [Text.joinLines_singleton]
              rfl
      | cons m ls =>
          cases k with
          | zero =>
              cases h
              rfl
          | succ k =>
              have hsize : o + (Text.joinLines (l :: m :: ls)).size =
                  o + l.size + 1 + (Text.joinLines (m :: ls)).size := by
                rw [Text.joinLines_cons_cons, Text.size_append, Text.size_line]
                omega
              rw [hsize]
              exact ih h

theorem slice?_span_of_mem_rowsFrom {s : Text} (h : r ∈ rowsFrom n 0 (s.splitOn '\n')) :
    r.span.slice? s = some r.text := by
  obtain ⟨p, q, hs, hoffset⟩ := exists_of_mem_rowsFrom h
  rw [Text.joinLines_splitOn] at hs
  have hcut : r.span.cut? s = some (p, r.text, q) := by
    refine Span.cut?_eq_some_iff.2 ⟨hs.symm, ?_, ?_⟩
    · rw [Row.span, hoffset, Nat.zero_add]
    · rw [Row.span, hoffset, Nat.zero_add, Text.size_append]
  rw [Span.slice?, hcut]
  rfl

end Excerpt
end TypeReport
