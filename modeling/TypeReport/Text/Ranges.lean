/-! # Character classes as ranges

A character class is a list of inclusive ranges of code points.  Looking a
character up walks the list and stops at the first range that starts beyond it, so
an increasing list is read only as far as needed.  In such a list the look-up finds
just the code points that lie in one of the ranges (`has_iff`). -/

namespace TypeReport

/-- Inclusive ranges of code points. -/
abbrev Ranges := List (Nat × Nat)

namespace Ranges

/-- Whether a code point is found in the ranges. -/
def has : Ranges → Nat → Bool
  | [], _ => false
  | (lo, hi) :: rest, n => if n < lo then false else n ≤ hi || has rest n

/-- Whether a character belongs to the class that the ranges describe. -/
def hasChar (r : Ranges) (c : Char) : Bool := r.has c.toNat

/-- Whether every range ends at or after its start and before the start of the next. -/
def isIncreasing : Ranges → Bool
  | [] => true
  | (lo, hi) :: rest => lo ≤ hi && rest.head?.all (hi < ·.1) && isIncreasing rest

theorem lt_of_mem {p q : Nat × Nat} {rest : Ranges} (h : isIncreasing (p :: rest) = true)
    (hq : q ∈ rest) : p.2 < q.1 := by
  induction rest generalizing p with
  | nil => cases hq
  | cons r rest ih =>
      simp only [isIncreasing, List.head?_cons, Option.all_some, Bool.and_eq_true,
        decide_eq_true_eq] at h
      obtain ⟨⟨-, hr⟩, ⟨hle, hrest⟩, hinc⟩ := h
      rcases List.mem_cons.1 hq with rfl | hq
      · exact hr
      · have := ih (p := r) (by simp [isIncreasing, hle, hrest, hinc]) hq
        omega

/-- In increasing ranges a code point is found exactly when it lies in one of them. -/
theorem has_iff {r : Ranges} (h : r.isIncreasing = true) {n : Nat} :
    r.has n = true ↔ ∃ p ∈ r, p.1 ≤ n ∧ n ≤ p.2 := by
  induction r with
  | nil => simp [has]
  | cons p rest ih =>
      have hlt := fun q => lt_of_mem (q := q) h
      simp only [isIncreasing, Bool.and_eq_true, decide_eq_true_eq] at h
      obtain ⟨⟨hle, -⟩, hinc⟩ := h
      simp only [has, List.mem_cons, exists_eq_or_imp]
      split
      case isTrue hn =>
        refine iff_of_false Bool.false_ne_true ?_
        rintro (⟨hp, -⟩ | ⟨q, hq, hqn, -⟩)
        · omega
        · have := hlt q hq
          omega
      case isFalse hn =>
        rw [Bool.or_eq_true, decide_eq_true_eq, ih hinc]
        exact or_congr_left ⟨fun hp => ⟨by omega, hp⟩, And.right⟩

end Ranges
end TypeReport
