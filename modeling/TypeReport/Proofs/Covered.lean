import TypeReport.Proofs.Span

/-! # The characters that a span covers

A span covers the characters of a text that start in it.  They are found character by
character, with their columns (`Span.coveredFrom`), in a text that may be a piece of
another one: the offset of its start is told.  Of a text that falls into parts before,
in and after a span it covers the middle one (`coveredFrom_of_parts`), so in a text that
it can be cut out of it covers its slice (`map_snd_coveredFrom_of_slice?`).  The end of this
module tells what it takes to cut a span out of a piece of a text (`IsIn.inter?`). -/

namespace TypeReport

namespace Span

/-- The characters that a span covers, each with its column, in a text that itself starts at offset
`n` and column `k`. -/
def coveredFrom (r : Span) (n k : Nat) : Text → List (Nat × Char)
  | [] => []
  | c :: s =>
      if r.start ≤ n ∧ n < r.stop then (k, c) :: coveredFrom r (n + c.utf8Size) (k + 1) s
      else coveredFrom r (n + c.utf8Size) (k + 1) s

example : coveredFrom ⟨2, 4⟩ 0 5 "aaéb".toList = [(7, 'é')] := by decide

variable {r : Span}

theorem coveredFrom_append (r : Span) (n k : Nat) (a b : Text) :
    r.coveredFrom n k (a ++ b) =
      r.coveredFrom n k a ++ r.coveredFrom (n + a.size) (k + a.length) b := by
  induction a generalizing n k with
  | nil => rfl
  | cons c a ih =>
      have hsize : n + c.utf8Size + Text.size a = n + Text.size (c :: a) := Nat.add_assoc _ _ _
      have hlength : k + 1 + a.length = k + (c :: a).length := by
        rw [List.length_cons]
        omega
      rw [List.cons_append, coveredFrom, coveredFrom, ih, hsize, hlength]
      split
      · rfl
      · rfl

theorem coveredFrom_shift (r : Span) (m n k : Nat) (s : Text) :
    (r.shift m).coveredFrom (n + m) k s = r.coveredFrom n k s := by
  induction s generalizing n k with
  | nil => rfl
  | cons c s ih =>
      have hiff : (r.shift m).start ≤ n + m ∧ n + m < (r.shift m).stop ↔
          r.start ≤ n ∧ n < r.stop := by
        simp only [shift]
        omega
      have hnext : n + m + c.utf8Size = n + c.utf8Size + m := by omega
      rw [coveredFrom, coveredFrom, hnext, ih]
      simp only [hiff]

theorem map_snd_coveredFrom_congr (r : Span) (n k k' : Nat) (s : Text) :
    (r.coveredFrom n k s).map (·.2) = (r.coveredFrom n k' s).map (·.2) := by
  induction s generalizing n k k' with
  | nil => rfl
  | cons c s ih =>
      rw [coveredFrom, coveredFrom]
      split
      · rw [List.map_cons, List.map_cons, ih _ (k + 1) (k' + 1)]
      · exact ih _ _ _

theorem map_snd_coveredFrom_subset (r : Span) (n k : Nat) (s : Text) :
    (r.coveredFrom n k s).map (·.2) ⊆ s := by
  induction s generalizing n k with
  | nil => exact List.Subset.refl _
  | cons c s ih =>
      rw [coveredFrom]
      split
      · exact List.cons_subset_cons c (ih _ _)
      · exact List.subset_cons_of_subset c (ih _ _)

/-! ### Parts -/

/-- A span that has no offset in common with a text covers none of it. -/
theorem coveredFrom_of_outside {n : Nat} {s : Text} (h : min r.stop (n + s.size) ≤ max r.start n)
    (k : Nat) : r.coveredFrom n k s = [] := by
  induction s generalizing n k with
  | nil => rfl
  | cons c s ih =>
      have hpos := Char.utf8Size_pos c
      rw [Text.size_cons] at h
      rw [coveredFrom, if_neg (by omega)]
      exact ih (by omega) _

theorem coveredFrom_of_inside {n : Nat} {s : Text} (hstart : r.start ≤ n)
    (hstop : n + s.size ≤ r.stop) (k : Nat) :
    r.coveredFrom n k s = (List.range' k s.length).zip s := by
  induction s generalizing n k with
  | nil => rfl
  | cons c s ih =>
      have hpos := Char.utf8Size_pos c
      rw [Text.size_cons] at hstop
      rw [coveredFrom, if_pos (by omega), ih (by omega) (by omega), List.length_cons,
        List.range'_succ, List.zip_cons_cons]

/-- Of parts before, in and after a span, those around the middle one being empty unless they
reach the span, it covers the middle one. -/
theorem coveredFrom_of_parts {n : Nat} {a m b : Text} (ha : a = [] ∨ n + a.size ≤ r.start)
    (hstart : r.start ≤ n + a.size) (hstop : n + a.size + m.size ≤ r.stop)
    (hb : b = [] ∨ r.stop ≤ n + a.size + m.size) (k : Nat) :
    r.coveredFrom n k (a ++ m ++ b) = (List.range' (k + a.length) m.length).zip m := by
  have hbefore : r.coveredFrom n k a = [] := by
    rcases ha with rfl | ha
    · rfl
    · exact coveredFrom_of_outside (by omega) k
  have hbehind (k : Nat) : r.coveredFrom (n + (a ++ m).size) k b = [] := by
    rcases hb with rfl | hb
    · rfl
    · apply coveredFrom_of_outside
      rw [Text.size_append]
      omega
  rw [coveredFrom_append, coveredFrom_append, hbefore, hbehind, List.append_nil, List.nil_append]
  exact coveredFrom_of_inside hstart hstop _

theorem map_snd_coveredFrom_of_slice? {s m : Text} (h : r.slice? s = some m) (k : Nat) :
    (r.coveredFrom 0 k s).map (·.2) = m := by
  obtain ⟨⟨a, m', b⟩, hcut, rfl⟩ := Option.map_eq_some_iff.1 h
  obtain ⟨rfl, hstart, hstop⟩ := append_of_cut? hcut
  rw [Text.size_append] at hstop
  rw [coveredFrom_of_parts (.inr (by omega)) (by omega) (by omega) (.inr (by omega))]
  exact List.map_snd_zip (by simp)

/-! ### Pieces of a text -/

theorem IsIn.shift {s : Text} (h : r.IsIn s) (p : Text) : (r.shift p.size).IsIn (p ++ s) := by
  obtain ⟨a, m, b, hcut⟩ := isIn_iff_exists_cut?.1 h
  obtain ⟨rfl, hstart, hstop⟩ := append_of_cut? hcut
  refine isIn_iff_exists_cut?.2 ⟨p ++ a, m, b, cut?_eq_some_iff.2 ⟨?_, ?_, ?_⟩⟩
  · simp only [List.append_assoc]
  · rw [Text.size_append, hstart, Nat.add_comm]
    rfl
  · rw [List.append_assoc, Text.size_append, hstop, Nat.add_comm]
    rfl

/-- The part of a span that lies within a piece of its text lies in the piece. -/
theorem IsIn.inter? {p s q : Text} (h : r.IsIn (p ++ s ++ q)) {common : Span}
    (hcommon : r.inter? ⟨p.size, p.size + s.size⟩ = some common) :
    (common.rebase p.size).IsIn s := by
  obtain ⟨hlt, rfl⟩ := inter?_eq_some_iff.1 hcommon
  dsimp only at hlt
  -- An end of the common part is an end of the span or of the piece.
  have hstart : s.floor (r.start - p.size) = r.start - p.size := by
    by_cases hle : r.start ≤ p.size
    · have := s.floor_le (r.start - p.size)
      omega
    · have hpiece := Text.floor_piece (p := p) (q := q) (show r.start - p.size ≤ s.size by omega)
      rw [show p.size + (r.start - p.size) = r.start by omega, h.start] at hpiece
      omega
  have hstop : s.floor (min r.stop (p.size + s.size) - p.size) =
      min r.stop (p.size + s.size) - p.size := by
    rcases Nat.le_total r.stop (p.size + s.size) with hle | hle
    · have hpiece := Text.floor_piece (p := p) (q := q) (show r.stop - p.size ≤ s.size by omega)
      rw [show p.size + (r.stop - p.size) = r.stop by omega, h.stop] at hpiece
      rw [Nat.min_eq_left hle]
      omega
    · have hend := Text.floor_append s []
      rw [List.append_nil] at hend
      rw [Nat.min_eq_right hle, Nat.add_sub_cancel_left, hend]
  simp only [rebase]
  constructor
  · dsimp only
    omega
  · dsimp only
    omega
  · rw [show max r.start p.size - p.size = r.start - p.size by omega, hstart]
  · exact hstop

end Span
end TypeReport
