import Mathlib.Order.Bounds.Defs
import TypeReport.Text.Basic

/-! # Offsets in a text

An offset of a text is a boundary if some leading part has that size (`IsBoundary`), and a
character stands at an offset if what comes before it has (`StandsAt`).  Rounding down gives
the greatest boundary that is not beyond an offset (`isGreatest_floor`), the same in a piece of
the text as in all of it (`floor_piece`), and the offsets of a character are those at which it
stands (`mem_offsets_iff`). -/

namespace TypeReport.Text

/-! ### Sizes -/

theorem size_eq_zero_iff {s : Text} : size s = 0 ↔ s = [] := by
  cases s with
  | nil => simp
  | cons c s =>
      have := Char.utf8Size_pos c
      simp only [size_cons, reduceCtorEq, iff_false]
      omega

theorem size_pos {s : Text} (h : s ≠ []) : 0 < size s := by
  have := mt size_eq_zero_iff.1 h
  omega

theorem size_replicate (k : Nat) (c : Char) : size (List.replicate k c) = k * c.utf8Size := by
  induction k with
  | zero => simp
  | succ k ih => rw [List.replicate_succ, size_cons, ih, Nat.succ_mul, Nat.add_comm]

/-! ### Boundaries -/

theorem floor_cons (c : Char) (s : Text) (n : Nat) :
    floor (c :: s) n = if c.utf8Size ≤ n then c.utf8Size + floor s (n - c.utf8Size) else 0 := by
  rw [floor, upTo]
  split
  · rfl
  · rfl

theorem floor_append (a b : Text) : floor (a ++ b) (size a) = size a := by
  rw [floor, upTo_append]

theorem floor_floor (s : Text) (n : Nat) : floor s (floor s n) = floor s n := by
  have h := floor_append (upTo s n) (after s n)
  rwa [upTo_append_after] at h

theorem floor_max {s : Text} {m n : Nat} (hm : floor s m = m) (hn : floor s n = n) :
    floor s (max m n) = max m n := by
  rcases Nat.le_total m n with h | h
  · rw [Nat.max_eq_right h, hn]
  · rw [Nat.max_eq_left h, hm]

/-- What fits into fewer bytes starts what fits into more. -/
theorem upTo_prefix_upTo (s : Text) {m n : Nat} (h : m ≤ n) : upTo s m <+: upTo s n := by
  induction s generalizing m n with
  | nil => exact List.prefix_rfl
  | cons c s ih =>
      unfold upTo
      split
      case isTrue hm =>
        rw [if_pos (Nat.le_trans hm h), List.prefix_cons_inj]
        exact ih (Nat.sub_le_sub_right h _)
      case isFalse => exact List.nil_prefix

theorem floor_mono (s : Text) {m n : Nat} (h : m ≤ n) : floor s m ≤ floor s n := by
  obtain ⟨d, hd⟩ := upTo_prefix_upTo s h
  rw [floor, floor, ← hd, size_append]
  exact Nat.le_add_right _ _

/-- Whether an offset of a text is a character boundary. -/
def IsBoundary (s : Text) (n : Nat) : Prop := ∃ a b : Text, a ++ b = s ∧ size a = n

theorem isBoundary_iff {s : Text} {n : Nat} : IsBoundary s n ↔ floor s n = n := by
  constructor
  · rintro ⟨a, b, rfl, rfl⟩
    exact floor_append a b
  · intro h
    exact ⟨upTo s n, after s n, upTo_append_after s n, h⟩

/-- Rounding down gives the greatest boundary that is not beyond. -/
theorem isGreatest_floor (s : Text) (n : Nat) :
    IsGreatest {m | IsBoundary s m ∧ m ≤ n} (floor s n) := by
  refine ⟨⟨isBoundary_iff.2 (floor_floor s n), floor_le s n⟩, ?_⟩
  rintro m ⟨hm, hle⟩
  rw [← isBoundary_iff.1 hm]
  exact floor_mono s hle

/-- There is no boundary between an offset and the one before it. -/
theorem floor_succ {s : Text} {n : Nat} (h : floor s (n + 1) ≠ n + 1) :
    floor s (n + 1) = floor s n := by
  induction s generalizing n with
  | nil => rfl
  | cons c s ih =>
      rw [floor_cons] at h
      rw [floor_cons, floor_cons]
      by_cases hle : c.utf8Size ≤ n
      · have hsub : n + 1 - c.utf8Size = n - c.utf8Size + 1 := by omega
        rw [if_pos (by omega), hsub] at h
        rw [if_pos (by omega), if_pos hle, hsub, ih (by omega)]
      · have hlt : ¬ c.utf8Size ≤ n + 1 := by
          intro hle'
          have hsub : n + 1 - c.utf8Size = 0 := by omega
          rw [if_pos hle', hsub] at h
          have hzero := floor_le s 0
          omega
        rw [if_neg hlt, if_neg hle]

theorem upTo_append_of_le {s : Text} {n : Nat} (h : n ≤ s.size) (t : Text) :
    upTo (s ++ t) n = upTo s n := by
  induction s generalizing n with
  | nil =>
      have hn : n = 0 := Nat.le_zero.1 h
      cases t with
      | nil => rfl
      | cons c t =>
          have hpos := Char.utf8Size_pos c
          have hcons : upTo (c :: t) n = [] := by
            rw [upTo, if_neg (by omega)]
          exact hcons
  | cons c s ih =>
      rw [size_cons] at h
      rw [List.cons_append, upTo, upTo]
      split
      · rw [ih (by omega)]
      · rfl

theorem upTo_size_add (p s : Text) (n : Nat) : upTo (p ++ s) (p.size + n) = p ++ upTo s n := by
  induction p with
  | nil => rw [List.nil_append, List.nil_append, size_nil, Nat.zero_add]
  | cons c p ih =>
      have hsub : c.utf8Size + size p + n - c.utf8Size = size p + n := by omega
      rw [List.cons_append, size_cons, upTo, if_pos (by omega), hsub, ih, List.cons_append]

/-- A piece of a text has the boundaries that the text has within it. -/
theorem floor_piece {p s q : Text} {n : Nat} (h : n ≤ s.size) :
    floor (p ++ s ++ q) (p.size + n) = p.size + floor s n := by
  rw [floor, floor, List.append_assoc, upTo_size_add, upTo_append_of_le h, size_append]

theorem upTo_of_size_le {s : Text} {n : Nat} (h : s.size ≤ n) : upTo s n = s := by
  have hsplit := upTo_size_add s [] (n - s.size)
  rw [List.append_nil] at hsplit
  have hn : s.size + (n - s.size) = n := by omega
  rw [hn] at hsplit
  exact hsplit.trans (List.append_nil s)

theorem upTo_min_size (s : Text) (n : Nat) : upTo s (min n s.size) = upTo s n := by
  rcases Nat.le_total n s.size with h | h
  · rw [Nat.min_eq_left h]
  · rw [Nat.min_eq_right h, upTo_of_size_le h, upTo_of_size_le (Nat.le_refl _)]

/-! ### The places of a character -/

theorem offsetsFrom_append (c : Char) (n : Nat) (s t : Text) :
    offsetsFrom c n (s ++ t) = offsetsFrom c n s ++ offsetsFrom c (n + size s) t := by
  induction s generalizing n with
  | nil => rfl
  | cons d s ih =>
      rw [List.cons_append, offsetsFrom, offsetsFrom, ih, size_cons, Nat.add_assoc]
      split <;> rfl

theorem offsetsFrom_eq_nil {c : Char} {s : Text} (h : c ∉ s) (n : Nat) :
    offsetsFrom c n s = [] := by
  refine List.length_eq_zero_iff.1 ?_
  rw [length_offsetsFrom, List.count_eq_zero_of_not_mem h]

theorem offsetsFrom_replicate {c : Char} (hc : c.utf8Size = 1) (n k : Nat) :
    offsetsFrom c n (List.replicate k c) = List.range' n k := by
  induction k generalizing n with
  | zero => rfl
  | succ k ih => rw [List.replicate_succ, offsetsFrom, if_pos rfl, hc, ih, List.range'_succ]

/-- Whether a character of a text stands at an offset. -/
def StandsAt (c : Char) (s : Text) (n : Nat) : Prop :=
  ∃ a b : Text, s = a ++ c :: b ∧ size a = n

theorem exists_of_mem_offsetsFrom {c : Char} {s : Text} {k n : Nat} (h : n ∈ offsetsFrom c k s) :
    ∃ a b : Text, s = a ++ c :: b ∧ k + size a = n := by
  induction s generalizing k with
  | nil => cases h
  | cons d s ih =>
      have hrest (h : n ∈ offsetsFrom c (k + d.utf8Size) s) :
          ∃ a b : Text, d :: s = a ++ c :: b ∧ k + size a = n := by
        obtain ⟨a, b, rfl, hn⟩ := ih h
        exact ⟨d :: a, b, rfl, by rw [size_cons, ← Nat.add_assoc, hn]⟩
      unfold offsetsFrom at h
      split at h
      case isTrue hd =>
        rcases List.mem_cons.1 h with rfl | h
        · exact ⟨[], s, by rw [hd]; rfl, rfl⟩
        · exact hrest h
      case isFalse => exact hrest h

theorem mem_offsets_iff {c : Char} {s : Text} {n : Nat} : n ∈ offsets c s ↔ StandsAt c s n := by
  constructor
  · intro h
    obtain ⟨a, b, hs, hn⟩ := exists_of_mem_offsetsFrom h
    exact ⟨a, b, hs, by omega⟩
  · rintro ⟨a, b, rfl, rfl⟩
    rw [offsets, offsetsFrom_append, offsetsFrom, if_pos rfl, Nat.zero_add]
    exact List.mem_append_right _ List.mem_cons_self

theorem add_le_size_of_mem_offsets {c : Char} {s : Text} {n : Nat} (h : n ∈ offsets c s) :
    n + c.utf8Size ≤ size s := by
  obtain ⟨a, b, rfl, rfl⟩ := mem_offsets_iff.1 h
  rw [size_append, size_cons]
  omega

/-- A character behind the longest leading part that fits into `n` bytes ends beyond `n`. -/
theorem lt_of_mem_offsetsFrom_after {c : Char} {s : Text} {m n : Nat}
    (h : m ∈ offsetsFrom c (floor s n) (after s n)) : n < m + c.utf8Size := by
  obtain ⟨a, b, hafter, hm⟩ := exists_of_mem_offsetsFrom h
  have hboundary : IsBoundary s (m + c.utf8Size) := by
    refine ⟨upTo s n ++ (a ++ [c]), b, ?_, ?_⟩
    · rw [List.append_assoc, List.append_assoc, List.singleton_append, ← hafter,
        upTo_append_after]
    · rw [floor] at hm
      simp only [size_append, size_cons, size_nil]
      omega
  -- Otherwise the character would end at a boundary behind the greatest one.
  refine Nat.lt_of_not_le fun hle => ?_
  have hgreatest := (isGreatest_floor s n).2 ⟨hboundary, hle⟩
  have hpos := Char.utf8Size_pos c
  omega

theorem exists_standsAt_iff {c : Char} {s : Text} : (∃ n, StandsAt c s n) ↔ c ∈ s := by
  constructor
  · rintro ⟨_, a, b, rfl, -⟩
    exact List.mem_append_right _ List.mem_cons_self
  · intro h
    obtain ⟨a, b, hs⟩ := List.append_of_mem h
    exact ⟨size a, a, b, hs, rfl⟩

end TypeReport.Text
