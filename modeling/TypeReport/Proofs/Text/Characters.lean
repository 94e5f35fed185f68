import TypeReport.Proofs.Text.Lines
import TypeReport.Text.Blank
import TypeReport.Text.Search

/-! # The characters of the parts of a text

Taking a text to pieces brings in no character: what is trimmed off, cut at a separator
or found around a phrase has only characters of the text.  Putting lines together again
brings in line feeds and nothing else. -/

namespace TypeReport.Text

/-! ### Lines -/

theorem chomp_subset (s : Text) : chomp s ⊆ s := by
  fun_induction chomp s with
  | case1 => exact List.nil_subset _
  | case2 => exact List.nil_subset _
  | case3 => exact List.nil_subset _
  | case4 c s _ _ ih => exact List.cons_subset_cons c ih

theorem lf_not_mem_chomp {l : Text} (h : '\n' ∉ l.dropLast) : '\n' ∉ chomp l := by
  fun_induction chomp l with
  | case1 => exact List.not_mem_nil
  | case2 => exact List.not_mem_nil
  | case3 => exact List.not_mem_nil
  | case4 c s hlf _ ih =>
      cases s with
      | nil =>
          have hc : '\n' ≠ c := fun hc => hlf hc.symm rfl
          simpa [chomp] using hc
      | cons d s =>
          rw [List.dropLast_cons_cons, List.mem_cons, not_or] at h
          rw [List.mem_cons, not_or]
          exact ⟨h.1, ih h.2⟩

theorem lf_not_mem_dropLast {s l : Text} (h : l ∈ s.rawLines) : '\n' ∉ l.dropLast := by
  induction s generalizing l with
  | nil => cases h
  | cons c s ih =>
      by_cases hc : c = '\n'
      · rw [rawLines, if_pos hc] at h
        rcases List.mem_cons.1 h with rfl | h
        · exact List.not_mem_nil
        · exact ih h
      · rw [rawLines_cons c s hc] at h
        cases hs : rawLines s with
        | nil =>
            rw [hs, List.mem_singleton] at h
            rw [h]
            exact List.not_mem_nil
        | cons l' ls =>
            rw [hs] at ih h
            rcases List.mem_cons.1 h with rfl | h
            · cases l' with
              | nil => exact List.not_mem_nil
              | cons d l' =>
                  rw [List.dropLast_cons_cons, List.mem_cons, not_or]
                  exact ⟨Ne.symm hc, ih List.mem_cons_self⟩
            · exact ih (List.mem_cons_of_mem _ h)

theorem lf_not_mem_of_mem_lines {s l : Text} (h : l ∈ s.lines) : '\n' ∉ l := by
  obtain ⟨raw, hraw, rfl⟩ := List.mem_map.1 h
  exact lf_not_mem_chomp (lf_not_mem_dropLast hraw)

theorem subset_of_mem_lines {s l : Text} (h : l ∈ s.lines) : l ⊆ s := by
  obtain ⟨raw, hraw, rfl⟩ := List.mem_map.1 h
  intro c hc
  have hmem : c ∈ s.rawLines.flatten := List.mem_flatten.2 ⟨raw, hraw, chomp_subset raw hc⟩
  rwa [flatten_rawLines] at hmem

theorem subset_intercalate {α : Type} {sep l : List α} {ls : List (List α)} (h : l ∈ ls) :
    l ⊆ sep.intercalate ls := by
  induction ls with
  | nil => cases h
  | cons l' ls ih =>
      cases ls with
      | nil =>
          rw [List.mem_singleton.1 h, List.intercalate_singleton]
          exact List.Subset.refl _
      | cons m ls =>
          rw [List.intercalate_cons_cons]
          rcases List.mem_cons.1 h with rfl | h
          · exact fun c hc => by simp [hc]
          · exact fun c hc => List.mem_append_right _ (ih h hc)

theorem mem_intercalate {α : Type} {sep : List α} {ls : List (List α)} {c : α}
    (h : c ∈ sep.intercalate ls) : c ∈ sep ∨ ∃ l ∈ ls, c ∈ l := by
  induction ls with
  | nil => cases h
  | cons l ls ih =>
      cases ls with
      | nil =>
          rw [List.intercalate_singleton] at h
          exact .inr ⟨l, List.mem_cons_self, h⟩
      | cons m ls =>
          rw [List.intercalate_cons_cons, List.mem_append, List.mem_append] at h
          rcases h with (h | h) | h
          · exact .inr ⟨l, List.mem_cons_self, h⟩
          · exact .inl h
          · rcases ih h with h | ⟨l', hl', h⟩
            · exact .inl h
            · exact .inr ⟨l', List.mem_cons_of_mem _ hl', h⟩

theorem subset_of_mem_splitOn {x : Char} {s l : Text} (h : l ∈ s.splitOn x) : l ⊆ s := by
  have hl : l ⊆ [x].intercalate (s.splitOn x) := subset_intercalate h
  rwa [List.intercalate_splitOn] at hl

/-! ### Trimmed texts -/

theorem trimStart_subset (s : Text) : trimStart s ⊆ s := List.dropWhile_subset _

theorem trimEnd_subset (s : Text) : trimEnd s ⊆ s := by
  intro c hc
  exact List.mem_reverse.1 (List.dropWhile_subset _ (List.mem_reverse.1 hc))

theorem trim_subset (s : Text) : trim s ⊆ s := fun _ hc => trimStart_subset s (trimEnd_subset _ hc)

/-! ### Found texts -/

theorem subset_of_after? {s w r : Text} (h : s.after? w = some r) : r ⊆ s := by
  rw [after?_eq_some_iff.1 h]
  exact List.subset_append_right w r

theorem subset_of_around? {s w a b : Text} (h : s.around? w = some (a, b)) : a ⊆ s ∧ b ⊆ s := by
  rw [← eq_append_of_around? h]
  constructor
  · exact fun c hc => by simp [hc]
  · exact List.subset_append_right _ b

end TypeReport.Text
