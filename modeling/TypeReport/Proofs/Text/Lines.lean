import TypeReport.Proofs.Leading
import TypeReport.Text.Lines

/-! # Pieces of the lines of a text

Consecutive lines of a text, put together again, are a text with just these lines
(`rawLines_flatten_of_append`).  So a text that is cut between two of its lines has
the lines of its parts, and nothing else.  A list of lines that hold no line feed is
printed with one behind each, and these are the lines of the printed text
(`rawLines_unlines`), which are read as they were (`chomp_line`).  Behind the lines that
end in a text its last one may stand without an end (`exists_endsLine_append`). -/

namespace TypeReport.Text

theorem rawLines_cons (c : Char) (s : Text) (hc : c ≠ '\n') :
    rawLines (c :: s) = match rawLines s with
      | [] => [[c]]
      | l :: ls => (c :: l) :: ls := by
  rw [rawLines]
  exact if_neg hc

theorem rawLines_head {s l : Text} {ls : List Text} (h : rawLines s = l :: ls) :
    rawLines l = [l] ∧ rawLines ls.flatten = ls ∧ (ls ≠ [] → EndsLine l) := by
  induction s generalizing l ls with
  | nil => cases h
  | cons c s ih =>
      by_cases hc : c = '\n'
      · subst hc
        rw [rawLines, if_pos rfl] at h
        obtain ⟨rfl, rfl⟩ := List.cons.inj h
        refine ⟨rfl, ?_, fun _ => Or.inr rfl⟩
        rw [flatten_rawLines]
      · rw [rawLines_cons c s hc] at h
        cases hs : rawLines s with
        | nil =>
            rw [hs] at h
            obtain ⟨rfl, rfl⟩ := List.cons.inj h
            exact ⟨by simp [rawLines, hc], rfl, fun hne => absurd rfl hne⟩
        | cons l' ls' =>
            rw [hs] at h
            obtain ⟨rfl, rfl⟩ := List.cons.inj h
            obtain ⟨hl, hls, hend⟩ := ih hs
            refine ⟨by rw [rawLines_cons c l' hc, hl], hls, fun hne => Or.inr ?_⟩
            rcases hend hne with rfl | hlast
            · cases hl
            · rw [List.getLast?_cons, hlast]
              rfl

/-- Consecutive lines of a text are the lines of the text that they make up. -/
theorem rawLines_flatten_of_append {s : Text} {a b : List Text} (h : rawLines s = a ++ b) :
    rawLines a.flatten = a ∧ rawLines b.flatten = b := by
  induction a generalizing s with
  | nil =>
      rw [List.nil_append] at h
      refine ⟨rfl, ?_⟩
      rw [← h, flatten_rawLines]
  | cons l a ih =>
      obtain ⟨hl, hrest, hend⟩ := rawLines_head h
      obtain ⟨ha, hb⟩ := ih hrest
      refine ⟨?_, hb⟩
      rw [List.flatten_cons]
      by_cases hne : a = []
      · rw [hne, List.flatten_nil, List.append_nil, hl]
      · rw [rawLines_append (hend (by simp [hne])), hl, ha]
        rfl

/-! ### The last line of a text -/

/-- A text falls into the lines that end in it and what follows them. -/
theorem exists_endsLine_append (s : Text) : ∃ a b, s = a ++ b ∧ EndsLine a ∧ '\n' ∉ b := by
  obtain ⟨a, b, hs, hb, ha⟩ := exists_trailing (· ≠ '\n') s
  refine ⟨a, b, hs, ?_, fun hmem => by simpa using hb _ hmem⟩
  unfold EndsLine
  cases hlast : a.getLast? with
  | none => exact Or.inl (List.getLast?_eq_none_iff.1 hlast)
  | some c =>
      have hc : c = '\n' := by simpa using ha c hlast
      rw [hc]
      exact Or.inr rfl

theorem takeWhile_reverse_append {a b : Text} (ha : EndsLine a) (hb : '\n' ∉ b) :
    (a ++ b).reverse.takeWhile (· ≠ '\n') = b.reverse := by
  rw [List.reverse_append]
  apply takeWhile_append_eq
  · intro c hc
    simpa using fun hlf : c = '\n' => hb (hlf ▸ List.mem_reverse.1 hc)
  · intro c hc
    rw [List.head?_reverse] at hc
    rcases ha with rfl | hlast
    · cases hc
    · rw [hlast] at hc
      cases hc
      rfl

/-! ### Printed lines -/

/-- Lines with a line feed behind each. -/
def unlines (ls : List Text) : Text := ls.flatMap (· ++ ['\n'])

theorem unlines_cons (l : Text) (ls : List Text) : unlines (l :: ls) = l ++ ['\n'] ++ unlines ls :=
  rfl

theorem size_line (l : Text) : size (l ++ ['\n']) = size l + 1 := by
  rw [size_append]
  rfl

theorem endsLine_line (l : Text) : EndsLine (l ++ ['\n']) := Or.inr (by simp)

theorem rawLines_line {l : Text} (h : '\n' ∉ l) : rawLines (l ++ ['\n']) = [l ++ ['\n']] := by
  induction l with
  | nil => rfl
  | cons c l ih =>
      have hc : c ≠ '\n' := fun hc => h (by simp [hc])
      have hl : '\n' ∉ l := fun hl => h (by simp [hl])
      rw [List.cons_append, rawLines_cons c _ hc, ih hl]

theorem rawLines_unlines {ls : List Text} (h : ∀ l ∈ ls, '\n' ∉ l) :
    rawLines (unlines ls) = ls.map (· ++ ['\n']) := by
  induction ls with
  | nil => rfl
  | cons l ls ih =>
      rw [List.forall_mem_cons] at h
      rw [unlines_cons, rawLines_append (endsLine_line l), rawLines_line h.1, ih h.2]
      rfl

theorem chomp_line {l : Text} (hlf : '\n' ∉ l) (hcr : l.getLast? ≠ some '\r') :
    chomp (l ++ ['\n']) = l := by
  induction l with
  | nil => rfl
  | cons c l ih =>
      have hl : '\n' ∉ l := fun hl => hlf (by simp [hl])
      cases l with
      | nil =>
          have hc : c ≠ '\r' := fun hc => hcr (by simp [hc])
          rw [List.cons_append, chomp, ih hl (by simp)]
          · intro _ h
            cases h
          · intro h _
            exact hc h
      | cons d l =>
          have hcr' : (d :: l).getLast? ≠ some '\r' := by rwa [List.getLast?_cons_cons] at hcr
          rw [List.cons_append, chomp, ih hl hcr']
          · intro _ h
            cases h
          · intro _ h
            obtain ⟨-, hnil⟩ := List.cons.inj h
            cases l <;> cases hnil

theorem joinLines_singleton (l : Text) : joinLines [l] = l := List.intercalate_singleton

theorem joinLines_cons_cons (l m : Text) (ls : List Text) :
    joinLines (l :: m :: ls) = l ++ ['\n'] ++ joinLines (m :: ls) := List.intercalate_cons_cons

theorem unlines_eq_joinLines {ls : List Text} (h : ls ≠ []) : unlines ls = joinLines ls ++ ['\n'] := by
  induction ls with
  | nil => exact absurd rfl h
  | cons l ls ih =>
      cases ls with
      | nil => simp [unlines, joinLines_singleton]
      | cons m ls =>
          rw [unlines_cons, ih (List.cons_ne_nil _ _), joinLines_cons_cons]
          simp only [List.append_assoc]

theorem joinLines_append (ls : List Text) {ms : List Text} (h : ms ≠ []) :
    joinLines (ls ++ ms) = unlines ls ++ joinLines ms := by
  induction ls with
  | nil => rfl
  | cons l ls ih =>
      obtain ⟨n, ns, hns⟩ : ∃ n ns, ls ++ ms = n :: ns :=
        List.exists_cons_of_ne_nil (List.append_ne_nil_of_right_ne_nil ls h)
      rw [hns] at ih
      rw [List.cons_append, hns, unlines_cons, List.append_assoc _ (unlines ls), ← ih,
        joinLines_cons_cons]

theorem endsLine_unlines (ls : List Text) : EndsLine (unlines ls) := by
  by_cases h : ls = []
  · rw [h]
    exact Or.inl rfl
  · rw [unlines_eq_joinLines h]
    exact endsLine_line _

theorem joinLines_splitOn (s : Text) : joinLines (s.splitOn '\n') = s :=
  List.intercalate_splitOn '\n'

theorem unlines_splitOn (s : Text) : unlines (s.splitOn '\n') = s ++ ['\n'] := by
  rw [unlines_eq_joinLines (List.splitOn_ne_nil _ _), joinLines_splitOn]

end TypeReport.Text
