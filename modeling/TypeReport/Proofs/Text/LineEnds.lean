import TypeReport.Proofs.Text.Characters
import TypeReport.Proofs.Text.Printed

/-! # The two line ends

With a carriage return put before each line feed (`crlf`) a text has the same lines, as
long as it had no carriage return of its own (`lines_crlf`).  The raw lines change with
the text (`rawLines_crlf`), but not in what tells them apart: how they start
(`startsWith_crlf`), whether they are blank (`isBlank_crlf`), and what is left of them
without trailing blanks (`trimEnd_crlf`). -/

namespace TypeReport.Text

/-- A text with a carriage return before each line feed. -/
def crlf (s : Text) : Text := s.flatMap fun c => if c = '\n' then ['\r', '\n'] else [c]

theorem crlf_lf_cons (s : Text) : crlf ('\n' :: s) = '\r' :: '\n' :: crlf s := rfl

theorem crlf_cons {c : Char} (h : c ≠ '\n') (s : Text) : crlf (c :: s) = c :: crlf s := by
  rw [crlf, List.flatMap_cons, if_neg h]
  rfl

theorem crlf_append (s t : Text) : crlf (s ++ t) = crlf s ++ crlf t := List.flatMap_append

theorem crlf_flatten (ls : List Text) : crlf ls.flatten = (ls.map crlf).flatten := by
  induction ls with
  | nil => rfl
  | cons l ls ih => rw [List.flatten_cons, crlf_append, ih, List.map_cons, List.flatten_cons]

theorem crlf_eq_self {s : Text} (h : '\n' ∉ s) : crlf s = s := by
  induction s with
  | nil => rfl
  | cons c s ih =>
      rw [List.mem_cons, not_or] at h
      rw [crlf_cons (Ne.symm h.1), ih h.2]

/-! ### Lines -/

/-- The lines of the text are cut at the same places. -/
theorem rawLines_crlf (s : Text) : rawLines (crlf s) = (rawLines s).map crlf := by
  induction s with
  | nil => rfl
  | cons c s ih =>
      by_cases hc : c = '\n'
      · subst hc
        rw [crlf_lf_cons, rawLines_cons '\r' _ (by decide), rawLines, if_pos rfl, rawLines,
          if_pos rfl, ih]
        rfl
      · rw [crlf_cons hc, rawLines_cons c _ hc, rawLines_cons c _ hc, ih]
        cases rawLines s with
        | nil => exact congrArg (fun l => [l]) (crlf_cons hc []).symm
        | cons l ls => exact congrArg (· :: ls.map crlf) (crlf_cons hc l).symm

theorem exists_of_mem_rawLines {s l : Text} (h : l ∈ s.rawLines) :
    ∃ t, '\n' ∉ t ∧ (l = t ∨ l = t ++ ['\n']) := by
  have hdropLast := lf_not_mem_dropLast h
  by_cases hlast : l.getLast? = some '\n'
  · refine ⟨l.dropLast, hdropLast, .inr ?_⟩
    rw [List.dropLast_append_getLast? '\n' hlast]
  · refine ⟨l, fun hmem => ?_, .inl rfl⟩
    obtain ⟨c, hc⟩ := List.getLast?_isSome.2 (List.ne_nil_of_mem hmem) |> Option.isSome_iff_exists.1
    rw [← List.dropLast_append_getLast? c hc, List.mem_append, List.mem_singleton] at hmem
    rcases hmem with hmem | rfl
    · exact hdropLast hmem
    · exact hlast hc

theorem chomp_crlf_line {t : Text} (h : '\n' ∉ t) : chomp (t ++ ['\r', '\n']) = t := by
  induction t with
  | nil => rfl
  | cons c t ih =>
      rw [List.mem_cons, not_or] at h
      rw [List.cons_append, chomp, ih h.2]
      · intro hc _
        exact h.1 hc.symm
      · intro _ ht
        have hlength := congrArg List.length ht
        rw [List.length_append] at hlength
        simp at hlength

/-- The end of a line is taken off whichever it is. -/
theorem chomp_crlf {s l : Text} (hcr : '\r' ∉ l) (h : l ∈ s.rawLines) :
    chomp (crlf l) = chomp l := by
  obtain ⟨t, hlf, rfl | rfl⟩ := exists_of_mem_rawLines h
  · rw [crlf_eq_self hlf]
  · have hlast : t.getLast? ≠ some '\r' := fun hlast =>
      hcr (List.mem_append_left _ (List.mem_of_getLast? hlast))
    rw [crlf_append, crlf_eq_self hlf, chomp_line hlf hlast]
    exact chomp_crlf_line hlf

theorem subset_of_mem_rawLines {s l : Text} (h : l ∈ s.rawLines) : l ⊆ s := by
  intro c hc
  have hmem : c ∈ s.rawLines.flatten := List.mem_flatten.2 ⟨l, h, hc⟩
  rwa [flatten_rawLines] at hmem

theorem lines_crlf {s : Text} (h : '\r' ∉ s) : lines (crlf s) = lines s := by
  rw [lines, lines, rawLines_crlf, List.map_map]
  refine List.map_congr_left fun l hl => ?_
  exact chomp_crlf (fun hcr => h (subset_of_mem_rawLines hl hcr)) hl

/-! ### What tells lines apart -/

theorem startsWith_crlf {w : Text} (hlf : '\n' ∉ w) (hcr : '\r' ∉ w) (s : Text) :
    startsWith (crlf s) w = startsWith s w := by
  rw [Bool.eq_iff_iff, startsWith_iff, startsWith_iff]
  induction w generalizing s with
  | nil => exact iff_of_true (List.nil_prefix) (List.nil_prefix)
  | cons d w ih =>
      rw [List.mem_cons, not_or] at hlf hcr
      cases s with
      | nil => rfl
      | cons c s =>
          by_cases hc : c = '\n'
          · rw [hc, crlf_lf_cons, List.cons_prefix_cons, List.cons_prefix_cons]
            exact iff_of_false (fun h => hcr.1 h.1.symm) fun h => hlf.1 h.1.symm
          · rw [crlf_cons hc, List.cons_prefix_cons, List.cons_prefix_cons, ih hlf.2 hcr.2]

theorem isBlank_crlf (s : Text) : isBlank (crlf s) = isBlank s := by
  rw [isBlank, isBlank, crlf, List.all_flatMap]
  congr 1
  funext c
  split
  case isTrue hc =>
    rw [hc]
    rfl
  case isFalse => exact Bool.and_true _

theorem trimEnd_crlf {s l : Text} (h : l ∈ s.rawLines) : trimEnd (crlf l) = trimEnd l := by
  obtain ⟨t, hlf, rfl | rfl⟩ := exists_of_mem_rawLines h
  · rw [crlf_eq_self hlf]
  · have hlf' : trimEnd (t ++ ['\n']) = trimEnd t := trimEnd_append (by decide) t
    have hcrlf : trimEnd (t ++ ['\r', '\n']) = trimEnd t := trimEnd_append (by decide) t
    rw [crlf_append, crlf_eq_self hlf, hlf']
    exact hcrlf

example : crlf "a\n\nb".toList = "a\r\n\r\nb".toList := by decide

end TypeReport.Text
