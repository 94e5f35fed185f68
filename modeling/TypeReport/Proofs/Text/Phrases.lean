import Mathlib.Data.List.Infix
import TypeReport.Proofs.Text.Printed
import TypeReport.Text.Search

/-! # Phrases in texts that are put together

A phrase that occurs in two texts with a gap between them, and in neither of them, reaches
over the gap, so the gap is one of its own spaces (`not_infix_append_gap`).  What stands on
either side of that space is then known from the phrase alone, and for a known wording
this can be ruled out once and for all (`IsClearOf`).  A phrase is found where it occurs
and does not occur before (`around?_eq_some_iff`). -/

namespace TypeReport.Text

/-- Whether a text can be a phrase: it is not empty, has no blanks at its ends and stays on one
line. -/
structure IsPhrase (w : Text) : Prop where
  ne_nil : w ≠ []
  trimmed : IsTrimmed w
  line : '\n' ∉ w

instance (w : Text) : Decidable (IsPhrase w) :=
  decidable_of_iff (w ≠ [] ∧ IsTrimmed w ∧ '\n' ∉ w)
    ⟨fun h => ⟨h.1, h.2.1, h.2.2⟩, fun h => ⟨h.ne_nil, h.trimmed, h.line⟩⟩

/-- Whether a text separates what stands on its sides: it is a space, or a line feed with the
indentation of the next line. -/
inductive IsGap : Text → Prop where
  | space : IsGap [' ']
  | feed (indent : Text) (h : isBlank indent = true) : IsGap ('\n' :: indent)

theorem IsGap.isBlank {g : Text} (h : IsGap g) : g.isBlank = true := by
  cases h with
  | space => decide
  | feed indent h => rw [Text.isBlank, List.all_cons, ← Text.isBlank, h]; decide

variable {w : Text}

/-! ### Blanks -/

/-- Blanks in front of a text bring in no phrase. -/
theorem infix_of_infix_blank_append (hw : IsPhrase w) {b : Text} (hb : isBlank b = true) {s : Text}
    (h : w <:+: b ++ s) : w <:+: s := by
  induction b with
  | nil => exact h
  | cons c b ih =>
      rw [isBlank, List.all_cons, Bool.and_eq_true] at hb
      rw [List.cons_append, List.infix_cons_iff] at h
      rcases h with ⟨t, ht⟩ | h
      · cases hw' : w with
        | nil => exact absurd hw' hw.ne_nil
        | cons d v =>
            -- The phrase would start with the blank.
            have hd := hw.trimmed.1 d (by rw [hw']; rfl)
            rw [hw'] at ht
            obtain ⟨rfl, -⟩ := List.cons.inj ht
            rw [hb.1] at hd
            cases hd
      · exact ih hb.2 h

/-- Blanks behind a text bring in no phrase at its start. -/
theorem prefix_of_prefix_append_blank (hw : IsPhrase w) {b : Text} (hb : isBlank b = true)
    {s : Text} (h : w <+: s ++ b) : w <+: s := by
  rcases List.prefix_or_prefix_of_prefix h (List.prefix_append s b) with hs | ⟨r, hr⟩
  · exact hs
  · rw [← hr, List.prefix_append_right_inj] at h
    cases hlast : r.getLast? with
    | none =>
        rw [← hr, List.getLast?_eq_none_iff.1 hlast, List.append_nil]
    | some c =>
        -- The phrase would end with one of the blanks.
        have hc : isBlankChar c = false := by
          apply hw.trimmed.2
          rw [← hr, List.getLast?_append, hlast]
          rfl
        have hmem : c ∈ b := h.subset (List.mem_of_getLast? hlast)
        rw [List.all_eq_true.1 hb c hmem] at hc
        cases hc

/-! ### Gaps -/

/-- A phrase that occurs in two texts with a gap between them reaches over the gap, unless it
occurs in one of the two. -/
theorem not_infix_append_gap (hw : IsPhrase w) {x g y : Text} (hg : IsGap g) (hx : ¬ w <:+: x)
    (hy : ¬ w <:+: y) (hseam : ∀ u v, w = u ++ ' ' :: v → u <:+ x → ¬ v <+: y) :
    ¬ w <:+: x ++ (g ++ y) := by
  intro h
  rcases List.infix_append_iff_ne_nil.1 h with h | h | ⟨u, v, -, hv, huv, hu, hvy⟩
  · exact hx h
  · exact hy (infix_of_infix_blank_append hw hg.isBlank h)
  · obtain ⟨c, v, rfl⟩ := List.exists_cons_of_ne_nil hv
    cases hg with
    | space =>
        obtain ⟨rfl, hvy⟩ := List.cons_prefix_cons.1 hvy
        exact hseam u v huv hu ((List.prefix_append_right_inj [' ']).1 hvy)
    | feed indent hindent =>
        obtain ⟨rfl, -⟩ := List.cons_prefix_cons.1 hvy
        exact hw.line (by rw [huv]; simp)

theorem not_infix_append_gap_nil (hw : IsPhrase w) {x g : Text} (hg : IsGap g) (hx : ¬ w <:+: x) :
    ¬ w <:+: x ++ g := by
  have hnil : ¬ w <:+: [] := fun h => hw.ne_nil (List.infix_nil.1 h)
  have hgap := not_infix_append_gap hw hg hx hnil ?_
  · rwa [List.append_nil] at hgap
  · intro u v huv _ hv
    have hblank := hw.trimmed.2 ' ' (by rw [huv, List.prefix_nil.1 hv]; simp)
    cases hblank

/-! ### Wordings -/

/-- Whether a phrase does not occur in a wording, and has at none of its spaces a part before that
ends the wording, or a part behind that starts it or goes on from it. -/
def IsClearOf (w k : Text) : Prop :=
  ¬ w <:+: k ∧ ∀ n < w.length, w[n]? = some ' ' →
    ¬ w.take n <:+ k ∧ ¬ w.drop (n + 1) <+: k ∧ ¬ k <+: w.drop (n + 1)

instance (w k : Text) : Decidable (IsClearOf w k) :=
  inferInstanceAs (Decidable (_ ∧ _))

namespace IsClearOf

variable {k : Text}

theorem not_parts (h : IsClearOf w k) {u v : Text} (huv : w = u ++ ' ' :: v) :
    ¬ u <:+ k ∧ ¬ v <+: k ∧ ¬ k <+: v := by
  have hparts := h.2 u.length (by rw [huv]; simp) (by rw [huv]; simp)
  have htake : w.take u.length = u := by
    rw [huv, List.take_left]
  have hdrop : w.drop (u.length + 1) = v := by
    rw [huv, ← List.drop_drop, List.drop_left]
    rfl
  rwa [htake, hdrop] at hparts

/-- A phrase does not reach over the gap behind a wording that it is clear of. -/
theorem not_infix_append (h : IsClearOf w k) (hw : IsPhrase w) {g y : Text} (hg : IsGap g)
    (hy : ¬ w <:+: y) : ¬ w <:+: k ++ (g ++ y) :=
  not_infix_append_gap hw hg h.1 hy fun _ _ huv hu => absurd hu (h.not_parts huv).1

/-- A phrase does not reach over the gap in front of a wording that it is clear of. -/
theorem not_infix_append_append (h : IsClearOf w k) (hw : IsPhrase w) {x g y : Text} (hg : IsGap g)
    (hx : ¬ w <:+: x) (hy : ¬ w <:+: k ++ y) : ¬ w <:+: x ++ (g ++ (k ++ y)) := by
  refine not_infix_append_gap hw hg hx hy fun u v huv _ hv => ?_
  obtain ⟨-, hstarts, hgoes⟩ := h.not_parts huv
  rcases List.prefix_or_prefix_of_prefix hv (List.prefix_append k y) with hv | hv
  · exact hstarts hv
  · exact hgoes hv

end IsClearOf

/-! ### Where a phrase is found -/

theorem includesAny_eq_false_iff {s : Text} {phrases : List Text} :
    s.includesAny phrases = false ↔ ∀ w ∈ phrases, ¬ w <:+: s := by
  rw [includesAny, List.any_eq_false]
  simp only [includes_iff]

theorem after?_eq_none_iff {s w : Text} : after? s w = none ↔ ¬ w <+: s := by
  rw [← startsWith_iff, startsWith, Option.not_isSome_iff_eq_none]

theorem after?_append_eq_none {v w : Text} (hvw : ¬ v <+: w) (hwv : ¬ w <+: v) (s : Text) :
    after? (v ++ s) w = none := by
  rw [after?_eq_none_iff]
  intro hw
  rcases List.prefix_or_prefix_of_prefix hw (List.prefix_append v s) with h | h
  · exact hwv h
  · exact hvw h

theorem around?_eq_some_iff {s w a b : Text} : around? s w = some (a, b) ↔
    a ++ w ++ b = s ∧ ∀ a' b', a' ++ w ++ b' = s → a.length ≤ a'.length := by
  refine ⟨fun h => ⟨eq_append_of_around? h, fun _ _ => length_le_of_around? h⟩, ?_⟩
  rintro ⟨rfl, hfirst⟩
  cases hfound : around? (a ++ w ++ b) w with
  | none => exact absurd ⟨a, b, rfl⟩ (around?_eq_none_iff.1 hfound)
  | some p =>
      obtain ⟨a', b'⟩ := p
      have heq := eq_append_of_around? hfound
      have hsame : a'.length = a.length :=
        Nat.le_antisymm (length_le_of_around? hfound rfl) (hfirst _ _ heq)
      rw [List.append_assoc, List.append_assoc] at heq
      obtain ⟨rfl, hrest⟩ := List.append_inj heq hsame
      rw [List.append_cancel_left hrest]

theorem not_mem_of_around? {s a b : Text} {c : Char} (h : around? s [c] = some (a, b)) : c ∉ a := by
  obtain ⟨hs, hfirst⟩ := around?_eq_some_iff.1 h
  intro hc
  obtain ⟨a', b', rfl⟩ := List.append_of_mem hc
  have hle := hfirst a' (b' ++ [c] ++ b) (by rw [← hs]; simp)
  rw [List.length_append, List.length_cons] at hle
  omega

/-- A phrase is found where it occurs, unless another occurrence starts before. -/
theorem around?_eq_some (hw : w ≠ []) {a : Text} (h : ¬ w <:+: a ++ w.dropLast) (b : Text) :
    around? (a ++ w ++ b) w = some (a, b) := by
  refine around?_eq_some_iff.2 ⟨rfl, fun a' b' heq => ?_⟩
  have hlength : w.dropLast.length + 1 = w.length := by
    have := List.length_pos_iff.2 hw
    rw [List.length_dropLast]
    omega
  rcases Nat.lt_or_ge a'.length a.length with hlt | hge
  · -- A shorter part before leaves room for the phrase in front of its last character.
    have hstarts : a' ++ w <+: a ++ w.dropLast := by
      have hroom : a ++ w.dropLast <+: a ++ w ++ b := by
        rw [List.append_assoc, List.prefix_append_right_inj]
        exact (List.dropLast_prefix w).trans (List.prefix_append w b)
      refine List.prefix_of_prefix_length_le ⟨b', heq⟩ hroom ?_
      rw [List.length_append, List.length_append]
      omega
    exact absurd ((List.suffix_append a' w).isInfix.trans hstarts.isInfix) h
  · exact hge

end TypeReport.Text
