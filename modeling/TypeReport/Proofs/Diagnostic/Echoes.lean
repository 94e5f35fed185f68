import TypeReport.Diagnostic.Parser
import TypeReport.Proofs.MapM
import TypeReport.Proofs.Text.Phrases

/-! # Echoed lines

What an echoed line says has a grammar (`Echo.IsFrom`): a line that starts with a digit is
a source line, with its number, a bar and its text, and any other line is a marker line if
it has a caret.  Reading a line gives what it says and refuses a line that says nothing
(`read?_eq_some_iff`), and the same goes for lines read one after the other
(`mapM_echoes_eq_ok_iff`, `mapM_echoes_eq_error_iff`).  The source lines among them are those
that start with a digit, and the marker lines are the others. -/

namespace TypeReport

open Text

/-! ### Numerals without a sign -/

theorem Text.readNat?_eq_some_iff {s : Text} (h : s.head? ≠ some '+') {n : Nat} :
    readNat? s = some n ↔ s ≠ [] ∧ (∀ c ∈ s, c.isDigit = true) ∧
      Nat.ofDigitChars 10 s 0 = n ∧ n < UInt32.size := by
  have hsign : s.after? ['+'] = none := by
    rw [after?_eq_none_iff]
    rintro ⟨r, rfl⟩
    exact h rfl
  simp only [readNat?, hsign, Option.getD_none, Option.ite_none_right_eq_some, List.all_eq_true,
    Option.some.injEq]
  constructor
  · rintro ⟨⟨hne, hdigits, hlt⟩, rfl⟩
    exact ⟨hne, hdigits, rfl, hlt⟩
  · rintro ⟨hne, hdigits, rfl, hlt⟩
    exact ⟨⟨hne, hdigits, hlt⟩, rfl⟩

namespace Echo

/-! ### Lines -/

/-- Whether an echo is what a line says.  A source line is a numeral with blanks behind it, a bar
with a space before it, and the text, from which one space is taken off. -/
inductive IsFrom (line : Text) : Echo → Prop where
  | source {digits blanks space : Text} {l : SourceLine} (ne_nil : digits ≠ [])
      (isDigit : ∀ c ∈ digits, c.isDigit = true) (isBlank : Text.isBlank blanks = true)
      (number : Nat.ofDigitChars 10 digits 0 = l.number) (number_lt : l.number < UInt32.size)
      (oneSpace : space = [' '] ∨ space = [] ∧ l.text.head? ≠ some ' ')
      (line_eq : line = digits ++ blanks ++ " |".toList ++ (space ++ l.text)) :
      IsFrom line (.source (size (digits ++ blanks)) l)
  | carets (not_digit : startsWithDigit line = false) (caret : '^' ∈ line) :
      IsFrom line (.carets line)

variable {line : Text}

theorem IsFrom.startsWithDigit_eq {n : Nat} {l : SourceLine}
    (h : IsFrom line (Echo.source n l)) : startsWithDigit line = true := by
  cases h with
  | @source digits _ _ _ hne hdigits _ _ _ _ hline =>
      obtain ⟨c, r, rfl⟩ := List.exists_cons_of_ne_nil hne
      rw [hline]
      exact hdigits c List.mem_cons_self

theorem IsFrom.text_subset {n : Nat} {l : SourceLine} (h : IsFrom line (Echo.source n l)) :
    l.text ⊆ line := by
  cases h with
  | source _ _ _ _ _ _ hline =>
      rw [hline]
      exact fun c hc => List.mem_append_right _ (List.mem_append_right _ hc)

/-- The bar is not looked for in vain behind a numeral and blanks. -/
theorem around?_bar {digits blanks : Text} (hdigits : ∀ c ∈ digits, c.isDigit = true)
    (hblanks : isBlank blanks = true) (s : Text) :
    around? (digits ++ blanks ++ " |".toList ++ s) " |".toList = some (digits ++ blanks, s) := by
  refine around?_eq_some (List.cons_ne_nil _ _) (fun hoccurs => ?_) s
  have hbar : '|' ∈ digits ++ blanks ++ " ".toList := hoccurs.subset (by decide)
  rw [List.mem_append, List.mem_append] at hbar
  rcases hbar with (hbar | hbar) | hbar
  · cases hdigits '|' hbar
  · cases List.all_eq_true.1 hblanks '|' hbar
  · simp at hbar

theorem trimEnd_digits {digits blanks : Text} (hdigits : ∀ c ∈ digits, c.isDigit = true)
    (hblanks : isBlank blanks = true) : trimEnd (digits ++ blanks) = digits := by
  rw [trimEnd_append hblanks]
  exact trimEnd_eq_self fun c hc => isBlankChar_of_isDigit (hdigits c (List.mem_of_getLast? hc))

theorem head?_ne_sign {digits : Text} (hdigits : ∀ c ∈ digits, c.isDigit = true) :
    digits.head? ≠ some '+' := by
  intro h
  cases hdigits '+' (List.mem_of_mem_head? h)

theorem IsFrom.read?_eq {e : Echo} (h : e.IsFrom line) : read? line = some e := by
  have hfrom := h
  cases h with
  | @source digits blanks space l hne hdigits hblanks hnumber hlt hspace hline =>
      have hread : readNat? digits = some l.number :=
        (readNat?_eq_some_iff (head?_ne_sign hdigits)).2 ⟨hne, hdigits, hnumber, hlt⟩
      have htext : ((space ++ l.text).after? [' ']).getD (space ++ l.text) = l.text := by
        rcases hspace with rfl | ⟨rfl, hhead⟩
        · rw [after?_append, Option.getD_some]
        · have hnone : l.text.after? [' '] = none := by
            rw [after?_eq_none_iff]
            rintro ⟨r, hr⟩
            exact hhead (by rw [← hr]; rfl)
          rw [List.nil_append, hnone, Option.getD_none]
      rw [read?, if_pos hfrom.startsWithDigit_eq, readSource?, hline, around?_bar hdigits hblanks]
      simp only [Option.bind_eq_bind, Option.bind_some, trimEnd_digits hdigits hblanks, hread,
        htext]
      rfl
  | carets hdigit hcaret =>
      have hcontains : line.contains '^' = true := by simpa using hcaret
      rw [read?, hdigit, hcontains]
      rfl

/-- A line that starts with a digit is read as a source line or not at all. -/
theorem isFrom_of_readSource? (hdigit : startsWithDigit line = true) {e : Echo}
    (h : readSource? line = some e) : e.IsFrom line := by
  simp only [readSource?, Option.bind_eq_bind, Option.bind_eq_some_iff] at h
  obtain ⟨⟨label, rest⟩, haround, n, hn, h⟩ := h
  cases h
  have hline := eq_append_of_around? haround
  obtain ⟨blanks, hblanks, hlabel⟩ := exists_trimEnd_append label
  -- The line starts with a digit, so neither the bar nor a sign does.
  have hsign : (trimEnd label).head? ≠ some '+' := by
    intro hhead
    rw [← hline, hlabel, startsWithDigit, List.append_assoc, List.append_assoc, List.head?_append,
      hhead] at hdigit
    cases hdigit
  obtain ⟨hne, hdigits, hnumber, hlt⟩ := (readNat?_eq_some_iff hsign).1 hn
  have hsize : label.size = size (trimEnd label ++ blanks) := by rw [← hlabel]
  dsimp only
  rw [hsize]
  cases hspace : rest.after? [' '] with
  | some text =>
      refine .source hne hdigits hblanks hnumber hlt (.inl rfl) ?_
      rw [← hlabel, ← hline, after?_eq_some_iff.1 hspace]
      rfl
  | none =>
      refine .source hne hdigits hblanks hnumber hlt (.inr ⟨rfl, ?_⟩) ?_
      · intro hhead
        obtain ⟨text, rfl⟩ := List.head?_eq_some_iff.1 hhead
        exact after?_eq_none_iff.1 hspace ⟨text, rfl⟩
      · rw [← hlabel, ← hline]
        rfl

/-- Reading a line gives what it says, and nothing for a line that says nothing. -/
theorem read?_eq_some_iff {e : Echo} : read? line = some e ↔ e.IsFrom line := by
  refine ⟨fun h => ?_, IsFrom.read?_eq⟩
  unfold read? at h
  split at h
  case isTrue hdigit => exact isFrom_of_readSource? hdigit h
  case isFalse hdigit =>
    split at h
    case isTrue hcaret =>
      cases h
      exact .carets (by simpa using hdigit) (by simpa using hcaret)
    case isFalse => cases h

theorem read?_eq_none_iff : read? line = none ↔ ∀ e : Echo, ¬ e.IsFrom line := by
  simp only [← read?_eq_some_iff, Option.eq_none_iff_forall_ne_some, ne_eq]

theorem IsFrom.unique {e e' : Echo} (h : e.IsFrom line) (h' : e'.IsFrom line) : e = e' := by
  have heq := h.read?_eq.symm.trans h'.read?_eq
  exact Option.some.inj heq

/-! ### Lines one after the other -/

variable {ls : List Text} {echoes : List Echo}

theorem mapM_echoes_eq_ok_iff :
    ls.mapM (fun line => require (Failure.unexpectedLine line) (read? line)) = .ok echoes ↔
      List.Forall₂ (fun line e => IsFrom line e) ls echoes := by
  rw [mapM_eq_ok_iff]
  refine ⟨fun h => h.imp fun line e he => ?_, fun h => h.imp fun line e he => ?_⟩
  · exact read?_eq_some_iff.1 (require_eq_ok_iff.1 he)
  · exact require_eq_ok_iff.2 (read?_eq_some_iff.2 he)

theorem exists_forall₂_isFrom_iff :
    (∃ echoes, List.Forall₂ (fun line e => IsFrom line e) ls echoes) ↔
      ∀ line ∈ ls, ∃ e, IsFrom line e := by
  simp only [← mapM_echoes_eq_ok_iff, exists_mapM_ok_iff, require_eq_ok_iff, read?_eq_some_iff]

/-- The first line that says nothing is blamed. -/
theorem mapM_echoes_eq_error_iff {e : Failure} :
    ls.mapM (fun line => require (Failure.unexpectedLine line) (read? line)) = .error e ↔
      ∃ before line behind, ls = before ++ line :: behind ∧
        (∀ l ∈ before, ∃ e : Echo, e.IsFrom l) ∧ (∀ e : Echo, ¬ e.IsFrom line) ∧
        e = .unexpectedLine line := by
  simp only [mapM_eq_error_iff, require_eq_ok_iff, require_eq_error_iff, read?_eq_some_iff,
    read?_eq_none_iff]

theorem filterMap_carets? (h : List.Forall₂ (fun line e => IsFrom line e) ls echoes) :
    echoes.filterMap carets? = ls.filter (!startsWithDigit ·) := by
  induction h with
  | nil => rfl
  | @cons line e _ _ hline _ ih =>
      cases e with
      | source n l =>
          have hnone : carets? (source n l) = none := rfl
          rw [List.filterMap_cons_none hnone, ih,
            List.filter_cons_of_neg (by simp [hline.startsWithDigit_eq])]
      | carets line' =>
          have hsome : carets? (carets line') = some line' := rfl
          cases hline with
          | carets hdigit hcaret =>
              rw [List.filterMap_cons_some hsome, ih, List.filter_cons_of_pos (by simp [hdigit])]

/-- The source lines are those that start with a digit. -/
theorem forall₂_filterMap_source? (h : List.Forall₂ (fun line e => IsFrom line e) ls echoes) :
    List.Forall₂ (fun line s => IsFrom line (.source s.1 s.2)) (ls.filter startsWithDigit)
      (echoes.filterMap source?) := by
  induction h with
  | nil => exact .nil
  | @cons line e _ _ hline _ ih =>
      cases e with
      | source n l =>
          have hsome : source? (source n l) = some (n, l) := rfl
          rw [List.filterMap_cons_some hsome, List.filter_cons_of_pos hline.startsWithDigit_eq]
          exact .cons hline ih
      | carets line' =>
          have hnone : source? (carets line') = none := rfl
          cases hline with
          | carets hdigit hcaret =>
              rw [List.filterMap_cons_none hnone, List.filter_cons_of_neg (by simp [hdigit])]
              exact ih

end Echo
end TypeReport
