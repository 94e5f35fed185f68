import TypeReport.Proofs.Json.Grammar
import Mathlib.Data.List.Forall2

/-! # What is printed is in the grammar

A value is a phrase of the grammar however it is printed, on one line
(`spells_inline`) or spread over lines (`spells_block`), whatever its strings hold. -/

namespace TypeReport.Json

/-! ### Strings -/

theorem isUnit_leftpad {n : Nat} (h : n < 0xa0) :
    IsUnit ((Nat.toDigits 16 n).leftpad 4 '0') n := by
  have hall : ∀ n : Fin 0xa0, IsUnit ((Nat.toDigits 16 n.val).leftpad 4 '0') n.val := by
    decide +kernel
  exact hall ⟨n, h⟩

theorem charText_escapeChar (c : Char) : CharText c (escapeChar c) := by
  unfold escapeChar
  split
  · next h => subst h; exact .short (by decide)
  split
  · next h => subst h; exact .short (by decide)
  split
  · next h => subst h; exact .short (by decide)
  split
  · next h => subst h; exact .short (by decide)
  split
  · next h => subst h; exact .short (by decide)
  split
  · next h =>
      have hlt : c.toNat < 0xa0 := by
        simp only [isControl, Bool.or_eq_true, Bool.and_eq_true, decide_eq_true_eq] at h
        omega
      exact .unit (isUnit_leftpad hlt)
  · next hquote hbackslash _ _ _ hcontrol =>
      have hle : 0x20 ≤ c.toNat := by
        simp only [isControl, Bool.or_eq_true, Bool.and_eq_true, decide_eq_true_eq] at hcontrol
        omega
      exact .plain hle hquote hbackslash

theorem stringText_flatMap (s : Text) : StringText s (s.flatMap escapeChar) := by
  induction s with
  | nil => exact .nil
  | cons c s ih => exact .cons (charText_escapeChar c) ih

/-! ### Numbers -/

theorem digitChar_ne_zero {n : Nat} (hpos : 0 < n) (hlt : n < 10) : Nat.digitChar n ≠ '0' := by
  have hall : ∀ n : Fin 10, 0 < n.val → Nat.digitChar n.val ≠ '0' := by decide
  exact hall ⟨n, hlt⟩ hpos

theorem head?_toDigits {n : Nat} (h : 0 < n) : (Nat.toDigits 10 n).head? ≠ some '0' := by
  induction n using Nat.strongRecOn with
  | ind n ih =>
      by_cases hlt : n < 10
      · rw [Nat.toDigits_of_lt_base hlt]
        intro hhead
        exact digitChar_ne_zero h hlt (Option.some.inj hhead)
      · -- Without its last digit the number is still positive.
        rw [Nat.toDigits_of_base_le (by decide) (by omega)]
        have hne : Nat.toDigits 10 (n / 10) ≠ [] := Nat.toDigits_ne_nil
        rw [List.head?_append_of_ne_nil _ hne]
        exact ih (n / 10) (by omega) (by omega)

theorem isNumeral_ofNat (n : Nat) : IsNumeral n (Text.ofNat n) := by
  refine ⟨Text.ofNat_ne_nil n, List.all_eq_true.1 (Text.all_isDigit_ofNat n), ?_, ?_⟩
  · rcases Nat.eq_zero_or_pos n with rfl | hpos
    · exact .inl rfl
    · exact .inr (head?_toDigits hpos)
  · exact Nat.ofDigitChars_toDigits (by decide) (by decide)

/-! ### Elements -/

theorem Spells.padded {p : Phrase} {s : Text} (h : Spells p s) : Padded p s :=
  ⟨[], s, [], by simp, isGap_nil, isGap_nil, h⟩

theorem Padded.gap_append {b s : Text} {p : Phrase} (hb : IsGap b) (h : Padded p s) :
    Padded p (b ++ s) := by
  obtain ⟨before, t, behind, rfl, hbefore, hbehind, ht⟩ := h
  exact ⟨b ++ before, t, behind, by simp, isGap_append hb hbefore, hbehind, ht⟩

theorem Padded.append_gap {b s : Text} {p : Phrase} (hb : IsGap b) (h : Padded p s) :
    Padded p (s ++ b) := by
  obtain ⟨before, t, behind, rfl, hbefore, hbehind, ht⟩ := h
  exact ⟨before, t, behind ++ b, by simp, hbefore, isGap_append hbehind hb, ht⟩

theorem Spells.elements_singleton {p : Phrase} {s : Text} (h : Padded p s) :
    Spells (.elements [p]) s := by
  obtain ⟨before, t, behind, rfl, hbefore, hbehind, ht⟩ := h
  exact .last hbefore ht hbehind

theorem Spells.elements_cons {p : Phrase} {ps : List Phrase} {s t : Text} (h : Padded p s)
    (hps : Spells (.elements ps) t) : Spells (.elements (p :: ps)) (s ++ ',' :: t) := by
  obtain ⟨before, u, behind, rfl, hbefore, hbehind, hu⟩ := h
  exact .more hbefore hu hbehind hps

theorem Spells.elements_gap_append {ps : List Phrase} {b s : Text} (hb : IsGap b)
    (h : Spells (.elements ps) s) : Spells (.elements ps) (b ++ s) := by
  cases h with
  | @last p before s behind hbefore hp hbehind =>
      exact .elements_singleton (.gap_append hb ⟨before, s, behind, rfl, hbefore, hbehind, hp⟩)
  | @more p ps before s behind t hbefore hp hbehind hps =>
      have hpadded : Padded p (b ++ (before ++ s ++ behind)) :=
        .gap_append hb ⟨before, s, behind, rfl, hbefore, hbehind, hp⟩
      have := Spells.elements_cons hpadded hps
      rwa [List.append_assoc] at this

theorem Spells.elements_append_gap {ps : List Phrase} {b s : Text} (hb : IsGap b)
    (h : Spells (.elements ps) s) : Spells (.elements ps) (s ++ b) := by
  -- The gap goes behind the last element, so the induction is on the derivation.
  generalize hp : Phrase.elements ps = p at h
  induction h generalizing ps with
  | @last p before s behind hbefore hs hbehind =>
      cases hp
      exact .elements_singleton (.append_gap hb ⟨before, s, behind, rfl, hbefore, hbehind, hs⟩)
  | @more p ps before s behind t hbefore hs hbehind hps ihp ihps =>
      cases hp
      rw [List.append_assoc]
      exact .more hbefore hs hbehind (ihps rfl)
  | _ => cases hp

/-- Elements with a comma between each two are spelled in order, whatever gap is behind the
commas. -/
theorem spells_intercalate {sep : Text} (hsep : IsGap sep) {ps : List Phrase} {ts : List Text}
    (h : List.Forall₂ Padded ps ts) (hne : ps ≠ []) :
    Spells (.elements ps) ((',' :: sep).intercalate ts) := by
  induction h with
  | nil => exact absurd rfl hne
  | @cons p s ps ts hp hps ih =>
      cases hps with
      | nil =>
          rw [List.intercalate_singleton]
          exact .elements_singleton hp
      | @cons q t ps ts hq hps =>
          rw [List.intercalate_cons_cons, List.append_assoc]
          exact .elements_cons hp (.elements_gap_append hsep (ih (List.cons_ne_nil _ _)))

theorem isGap_indent (depth : Nat) : IsGap (indent depth) := isGap_replicate _

theorem spells_commaList {ps : List Phrase} {ts : List Text} (h : List.Forall₂ Spells ps ts)
    (hne : ps ≠ []) : Spells (.elements ps) (commaList ts) :=
  spells_intercalate (isGap_cons rfl isGap_nil) (h.imp fun _ _ => Spells.padded) hne

theorem spells_commaLines (depth : Nat) {ps : List Phrase} {ts : List Text}
    (h : List.Forall₂ Spells ps ts) (hne : ps ≠ []) :
    Spells (.elements ps) (commaLines depth ts) := by
  have hgap : IsGap ['\n'] := isGap_cons rfl isGap_nil
  induction h with
  | nil => exact absurd rfl hne
  | @cons p s ps ts hp hps ih =>
      have hpadded : Padded p (indent depth ++ s) := .gap_append (isGap_indent depth) hp.padded
      cases hps with
      | nil => exact .elements_singleton (hpadded.append_gap hgap)
      | @cons q t ps ts hq hps =>
          have hrest := Spells.elements_gap_append hgap (ih (List.cons_ne_nil _ _))
          have := Spells.elements_cons hpadded hrest
          simpa [commaLines] using this

/-! ### Values -/

theorem spells_quote (s : Text) : Spells (.value (.string s)) (quote s) :=
  .string (stringText_flatMap s)

theorem spells_field {v : Json} {s : Text} (key : Text) (h : Spells (.value v) s) :
    Spells (.field key v) (field key s) := by
  have := Spells.field (stringText_flatMap key) isGap_nil (isGap_cons (c := ' ') rfl isGap_nil) h
  simpa [Json.field, quote] using this

mutual

theorem spells_inline : ∀ v : Json, Spells (.value v) (inline v)
  | null => .null
  | bool true => .true
  | bool false => .false
  | number n => .number (isNumeral_ofNat n)
  | string s => spells_quote s
  | array [] => .emptyArray isGap_nil
  | array (v :: vs) => .array (spells_commaList (spells_inlineItems (v :: vs)) (by simp))
  | object [] => .emptyObject isGap_nil
  | object (f :: fs) => .object (spells_commaList (spells_inlineFields (f :: fs)) (by simp))

theorem spells_inlineItems : ∀ vs : List Json,
    List.Forall₂ Spells (vs.map .value) (inlineItems vs)
  | [] => .nil
  | v :: vs => .cons (spells_inline v) (spells_inlineItems vs)

theorem spells_inlineFields : ∀ fields : List (Text × Json),
    List.Forall₂ Spells (fields.map .ofField) (inlineFields fields)
  | [] => .nil
  | (key, v) :: fields => .cons (spells_field key (spells_inline v)) (spells_inlineFields fields)

end

/-! ### Values over lines -/

theorem Spells.elements_lines {ps : List Phrase} {s : Text} (h : Spells (.elements ps) s)
    (depth : Nat) : Spells (.elements ps) ('\n' :: s ++ indent depth) :=
  .elements_append_gap (isGap_indent depth) (.elements_gap_append (isGap_cons rfl isGap_nil) h)

theorem isGap_lines (depth : Nat) : IsGap ('\n' :: indent depth) :=
  isGap_cons rfl (isGap_indent depth)

mutual

theorem spells_block (spread : Text → Bool) : ∀ (depth : Nat) (v : Json),
    Spells (.value v) (block spread depth v)
  | depth, array [] => .emptyArray (isGap_lines depth)
  | depth, array (v :: vs) => by
      have hitems := spells_commaLines (depth + 1) (spells_inlineItems (v :: vs)) (by simp)
      exact .array (hitems.elements_lines depth)
  | depth, object [] => .emptyObject (isGap_lines depth)
  | depth, object (f :: fs) => by
      have hfields :=
        spells_commaLines (depth + 1) (spells_blockFields spread (depth + 1) (f :: fs)) (by simp)
      exact .object (hfields.elements_lines depth)
  | _, null => spells_inline null
  | _, bool b => spells_inline (bool b)
  | _, number n => spells_inline (number n)
  | _, string s => spells_inline (string s)

theorem spells_blockFields (spread : Text → Bool) : ∀ (depth : Nat) (fields : List (Text × Json)),
    List.Forall₂ Spells (fields.map .ofField) (blockFields spread depth fields)
  | _, [] => .nil
  | depth, (key, v) :: fields => by
      refine .cons (spells_field key ?_) (spells_blockFields spread depth fields)
      split
      · exact spells_block spread depth v
      · exact spells_inline v

end

end TypeReport.Json
