import Mathlib.Data.List.Basic
import TypeReport.Proofs.Leading
import TypeReport.Text.Blank
import TypeReport.Text.Numeral

/-! # Taking printed texts apart

Blanks around a text that has none at its ends are taken off again (`trim_append`), and
nothing else is taken off (`exists_append_trim_append`).  The first occurrence of a phrase
lies behind every text without the first character of the phrase (`around?_append`).  This
is how the fields of a printed line are found. -/

namespace TypeReport.Text

/-! ### Trimming -/

/-- Whether a text has no blanks at its ends. -/
def IsTrimmed (s : Text) : Prop :=
  (∀ c ∈ s.head?, isBlankChar c = false) ∧ ∀ c ∈ s.getLast?, isBlankChar c = false

-- Only the characters at the ends are looked at, not all that there are.
instance (s : Text) : Decidable (IsTrimmed s) :=
  @instDecidableAnd _ _ (Option.decidableForallMem s.head?) (Option.decidableForallMem s.getLast?)

theorem trimStart_append {b : Text} (hb : isBlank b = true) (s : Text) :
    trimStart (b ++ s) = trimStart s :=
  List.dropWhile_append_of_pos (List.all_eq_true.1 hb)

theorem trimStart_eq_self {s : Text} (h : ∀ c ∈ s.head?, isBlankChar c = false) :
    trimStart s = s := by
  cases s with
  | nil => rfl
  | cons c s => exact List.dropWhile_cons_of_neg (by simp [h c rfl])

theorem trimEnd_append {b : Text} (hb : isBlank b = true) (s : Text) :
    trimEnd (s ++ b) = trimEnd s := by
  have hreverse : isBlank b.reverse = true := by rwa [isBlank, List.all_reverse]
  have := trimStart_append hreverse s.reverse
  rw [trimEnd, List.reverse_append]
  exact congrArg List.reverse this

theorem trimEnd_eq_self {s : Text} (h : ∀ c ∈ s.getLast?, isBlankChar c = false) :
    trimEnd s = s := by
  have hhead : ∀ c ∈ s.reverse.head?, isBlankChar c = false := by rwa [List.head?_reverse]
  have := trimStart_eq_self hhead
  exact (congrArg List.reverse this).trans s.reverse_reverse

theorem trim_eq_self {s : Text} (h : IsTrimmed s) : trim s = s := by
  rw [trim, trimStart_eq_self h.1, trimEnd_eq_self h.2]

theorem isTrimmed_append {a b : Text} (ha : IsTrimmed a) (hb : IsTrimmed b) (hane : a ≠ [])
    (hbne : b ≠ []) (m : Text) : IsTrimmed (a ++ m ++ b) := by
  constructor
  · rw [List.append_assoc, List.head?_append_of_ne_nil _ hane]
    exact ha.1
  · rw [List.getLast?_append_of_ne_nil _ hbne]
    exact hb.2

theorem trim_append {a b s : Text} (ha : isBlank a = true) (hb : isBlank b = true)
    (h : IsTrimmed s) : trim (a ++ s ++ b) = s := by
  rw [List.append_assoc, trim, trimStart_append ha]
  cases s with
  | nil =>
      have : trimEnd (trimStart b) = [] := (trim_eq_nil_iff b).2 hb
      exact this
  | cons c s =>
      have hhead : ∀ d ∈ (c :: s ++ b).head?, isBlankChar d = false := h.1
      rw [trimStart_eq_self hhead, trimEnd_append hb, trimEnd_eq_self h.2]

theorem isBlankChar_of_head?_trimStart {s : Text} {c : Char} (h : c ∈ (trimStart s).head?) :
    isBlankChar c = false :=
  of_mem_head?_dropWhile h

theorem isBlankChar_of_getLast?_trimEnd {s : Text} {c : Char} (h : c ∈ (trimEnd s).getLast?) :
    isBlankChar c = false := by
  rw [trimEnd, List.getLast?_reverse] at h
  exact isBlankChar_of_head?_trimStart h

theorem exists_append_trimStart (s : Text) : ∃ b, isBlank b = true ∧ s = b ++ trimStart s :=
  ⟨s.takeWhile isBlankChar, List.all_takeWhile, List.takeWhile_append_dropWhile.symm⟩

theorem exists_trimEnd_append (s : Text) : ∃ b, isBlank b = true ∧ s = trimEnd s ++ b := by
  obtain ⟨b, hb, hs⟩ := exists_append_trimStart s.reverse
  refine ⟨b.reverse, by rwa [isBlank, List.all_reverse], ?_⟩
  have hreverse := congrArg List.reverse hs
  rwa [List.reverse_reverse, List.reverse_append] at hreverse

theorem exists_append_trim_append (s : Text) :
    ∃ a b, isBlank a = true ∧ isBlank b = true ∧ s = a ++ trim s ++ b := by
  obtain ⟨a, ha, hs⟩ := exists_append_trimStart s
  obtain ⟨b, hb, ht⟩ := exists_trimEnd_append (trimStart s)
  refine ⟨a, b, ha, hb, ?_⟩
  rw [List.append_assoc, trim, ← ht]
  exact hs

theorem isTrimmed_trim (s : Text) : IsTrimmed (trim s) := by
  refine ⟨fun c hc => ?_, fun c hc => isBlankChar_of_getLast?_trimEnd hc⟩
  -- What is left in front of the blanks at the end starts as it did with them.
  obtain ⟨b, -, ht⟩ := exists_trimEnd_append (trimStart s)
  apply isBlankChar_of_head?_trimStart (s := s)
  rw [ht, List.head?_append]
  have hc : (trimEnd (trimStart s)).head? = some c := hc
  rw [hc]
  rfl

/-! ### Numerals -/

theorem isBlankChar_of_isDigit {c : Char} (h : c.isDigit = true) : isBlankChar c = false := by
  simp only [Char.isDigit, Bool.and_eq_true, decide_eq_true_eq] at h
  have hle : 48 ≤ c.toNat := UInt32.le_iff_toNat_le.1 h.1
  have hge : c.toNat ≤ 57 := UInt32.le_iff_toNat_le.1 h.2
  simp only [isBlankChar, Ranges.hasChar, blankRanges, Ranges.has]
  grind

theorem isTrimmed_ofNat (n : Nat) : IsTrimmed (ofNat n) := by
  have hdigits := List.all_eq_true.1 (all_isDigit_ofNat n)
  constructor
  · intro c hc
    exact isBlankChar_of_isDigit (hdigits c (List.mem_of_mem_head? hc))
  · intro c hc
    exact isBlankChar_of_isDigit (hdigits c (List.mem_of_getLast? hc))

theorem not_mem_ofNat {c : Char} (hc : c.isDigit = false) (n : Nat) : c ∉ ofNat n := by
  intro h
  have := List.all_eq_true.1 (all_isDigit_ofNat n) c h
  rw [hc] at this
  cases this

/-! ### Searching -/

theorem around?_append {c : Char} {a : Text} (h : c ∉ a) (w b : Text) :
    around? (a ++ (c :: w ++ b)) (c :: w) = some (a, b) := by
  induction a with
  | nil =>
      have := after?_append (c :: w) b
      rw [List.nil_append, List.cons_append] at *
      rw [around?, this]
  | cons d a ih =>
      have hd : c ≠ d := fun hcd => h (by simp [hcd])
      have ha : c ∉ a := fun hca => h (by simp [hca])
      have hafter : after? (d :: (a ++ (c :: w ++ b))) (c :: w) = none := by
        rw [after?, if_neg (Ne.symm hd)]
      rw [List.cons_append, around?, hafter, ih ha]
      rfl

theorem startsWith_cons_of_ne {c d : Char} (h : c ≠ d) (s w : Text) :
    startsWith (c :: s) (d :: w) = false := by
  rw [startsWith, after?, if_neg h]
  rfl

/-- The first piece of a text starts as the text does, up to the separator. -/
theorem exists_splitOn_append {c : Char} {a : Text} (h : c ∉ a) (s : Text) :
    ∃ first rest, (a ++ s).splitOn c = (a ++ first) :: rest := by
  induction a with
  | nil =>
      obtain ⟨first, rest, hs⟩ := List.exists_cons_of_ne_nil (List.splitOn_ne_nil c s)
      exact ⟨first, rest, hs⟩
  | cons d a ih =>
      have hd : (d == c) = false := by
        rw [beq_eq_false_iff_ne]
        exact fun hd => h (by simp [hd])
      obtain ⟨first, rest, hs⟩ := ih fun ha => h (by simp [ha])
      refine ⟨first, rest, ?_⟩
      rw [List.cons_append, List.splitOn_cons_eq_if_modifyHead, hd, hs]
      rfl

theorem not_mem_of_mem_splitOn {c : Char} {s l : Text} (h : l ∈ s.splitOn c) : c ∉ l := by
  induction s generalizing l with
  | nil =>
      rw [List.splitOn_nil, List.mem_singleton] at h
      rw [h]
      exact List.not_mem_nil
  | cons d s ih =>
      rw [List.splitOn_cons_eq_if_modifyHead] at h
      by_cases hd : d = c
      · rw [if_pos (by simpa using hd)] at h
        rcases List.mem_cons.1 h with rfl | h
        · exact List.not_mem_nil
        · exact ih h
      · rw [if_neg (by simpa using hd)] at h
        obtain ⟨first, rest, hs⟩ := List.exists_cons_of_ne_nil (List.splitOn_ne_nil c s)
        rw [hs] at ih h
        rcases List.mem_cons.1 h with rfl | h
        · rw [List.mem_cons, not_or]
          exact ⟨Ne.symm hd, ih List.mem_cons_self⟩
        · exact ih (List.mem_cons_of_mem first h)

theorem splitOn_eq_pair_iff {c : Char} {s a b : Text} :
    s.splitOn c = [a, b] ↔ s = a ++ c :: b ∧ c ∉ a ∧ c ∉ b := by
  constructor
  · intro h
    have ha : a ∈ s.splitOn c := by simp [h]
    have hb : b ∈ s.splitOn c := by simp [h]
    have hs : [c].intercalate (s.splitOn c) = s := List.intercalate_splitOn c
    rw [h] at hs
    exact ⟨hs.symm.trans (by simp), not_mem_of_mem_splitOn ha, not_mem_of_mem_splitOn hb⟩
  · rintro ⟨rfl, ha, hb⟩
    rw [List.splitOn_append_cons_self_of_not_mem ha, List.splitOn_eq_singleton hb]

end TypeReport.Text
