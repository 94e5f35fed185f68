import TypeReport.Proofs.Span
import TypeReport.Proofs.Text.Phrases
import TypeReport.Text.Occurrences

/-! # Words in a text

The last word of a text is followed by blanks only and no part of a longer piece without
blanks (`getLast?_words_eq_some_iff`).

A search for a word that goes on where the last occurrence ended passes over those that
overlap the last one.  In front of such an occurrence stands a character of the word
(`cases_of_around?`), so if the word consists of identifier characters, it does not
stand alone there.  All occurrences that stand alone are found (`mem_occurrences`), from
left to right (`pairwise_occurrences`), and the first that is found is the first of all
(`wordSpan?_eq_some_iff`). -/

namespace TypeReport.Text

/-! ### The last word -/

/-- Whether a text is the last of the pieces of another between blanks, with nothing but blanks
behind it. -/
structure IsLastWord (s w : Text) : Prop where
  ne_nil : w ≠ []
  solid : ∀ c ∈ w, isBlankChar c = false
  exists_parts : ∃ before behind, s = before ++ w ++ behind ∧
    (∀ c ∈ before.getLast?, isBlankChar c = true) ∧ isBlank behind = true

theorem words_append_cons {c : Char} (hc : isBlankChar c = true) (a b : Text) :
    words (a ++ c :: b) = words a ++ words b := by
  rw [words, List.splitOnP_append_cons _ _ hc, List.filter_append]
  rfl

theorem words_eq_singleton {w : Text} (hne : w ≠ []) (h : ∀ c ∈ w, isBlankChar c = false) :
    words w = [w] := by
  rw [words, List.splitOnP_eq_singleton h, List.filter_cons_of_pos (by simpa using hne)]
  rfl

theorem words_eq_nil {s : Text} (h : isBlank s = true) : words s = [] := by
  induction s with
  | nil => rfl
  | cons c s ih =>
      rw [isBlank, List.all_cons, Bool.and_eq_true] at h
      have hwords := words_append_cons h.1 [] s
      rw [ih h.2] at hwords
      exact hwords

theorem IsLastWord.getLast?_words {s w : Text} (h : IsLastWord s w) :
    (words s).getLast? = some w := by
  obtain ⟨before, behind, rfl, hbefore, hbehind⟩ := h.exists_parts
  have hend : words (w ++ behind) = [w] := by
    cases behind with
    | nil => rw [List.append_nil, words_eq_singleton h.ne_nil h.solid]
    | cons c b =>
        rw [isBlank, List.all_cons, Bool.and_eq_true] at hbehind
        rw [words_append_cons hbehind.1, words_eq_singleton h.ne_nil h.solid,
          words_eq_nil hbehind.2, List.append_nil]
  rcases List.eq_nil_or_concat before with rfl | ⟨a, c, rfl⟩
  · rw [List.nil_append, hend]
    rfl
  · have hc : isBlankChar c = true := hbefore c (by simp)
    have hwords := words_append_cons hc a (w ++ behind)
    rw [List.concat_eq_append, List.append_assoc, List.append_assoc, List.singleton_append, hwords,
      hend, List.getLast?_concat]

theorem exists_isLastWord {s : Text} (h : isBlank s = false) : ∃ w, IsLastWord s w := by
  obtain ⟨behind, hbehind, hs⟩ := exists_trimEnd_append s
  obtain ⟨before, w, htrim, hw, hbefore⟩ := exists_trailing (!isBlankChar ·) (trimEnd s)
  refine ⟨w, ?_, fun c hc => by simpa using hw c hc, before, behind, ?_,
    fun c hc => by simpa using hbefore c hc, hbehind⟩
  · -- Without a word at its end, the trimmed text would end in a blank, or be empty.
    rintro rfl
    rw [List.append_nil] at htrim
    cases hlast : (trimEnd s).getLast? with
    | none =>
        rw [(trimEnd_eq_nil_iff s).1 (List.getLast?_eq_none_iff.1 hlast)] at h
        cases h
    | some c =>
        have hblank := hbefore c (by rw [← htrim]; exact hlast)
        rw [isBlankChar_of_getLast?_trimEnd hlast] at hblank
        cases hblank
  · rw [← htrim]
    exact hs

theorem getLast?_words_eq_some_iff {s w : Text} :
    (words s).getLast? = some w ↔ IsLastWord s w := by
  refine ⟨fun h => ?_, IsLastWord.getLast?_words⟩
  cases hblank : isBlank s with
  | true =>
      rw [words_eq_nil hblank] at h
      cases h
  | false =>
      obtain ⟨w', hw'⟩ := exists_isLastWord hblank
      rw [hw'.getLast?_words] at h
      cases h
      exact hw'

/-! ### Places of a text -/

/-- Whether no identifier character touches the gap between two texts. -/
def IsApart (before behind : Text) : Prop :=
  (∀ c ∈ before.getLast?, isIdentifierChar c = false) ∧
    ∀ c ∈ behind.head?, isIdentifierChar c = false

theorem standsAlone_iff {before behind : Text} :
    standsAlone before behind = true ↔ IsApart before behind := by
  rw [standsAlone, IsApart, Bool.and_eq_true, Bool.not_eq_true', Bool.not_eq_true',
    Option.any_eq_false, Option.any_eq_false]
  simp only [Option.mem_def]

/-- Whether a text that stands between two others is not cut out of a longer identifier. -/
structure IsWhole (before w behind : Text) : Prop where
  start : ∀ c ∈ w.head?, isIdentifierChar c = true →
    ∀ d ∈ before.getLast?, isIdentifierChar d = false
  stop : ∀ c ∈ w.getLast?, isIdentifierChar c = true →
    ∀ d ∈ behind.head?, isIdentifierChar d = false

theorem IsApart.isWhole {before behind : Text} (h : IsApart before behind) (w : Text) :
    IsWhole before w behind :=
  ⟨fun _ _ _ => h.1, fun _ _ _ => h.2⟩

/-- Whether `w` stands in `s` between two texts, at the first of the places that `p` allows. -/
structure IsFirstPlace (p : Text → Text → Prop) (s w before behind : Text) : Prop where
  parts : before ++ w ++ behind = s
  allowed : p before behind
  earliest : ∀ a b, a ++ w ++ b = s → p a b → before.length ≤ a.length

variable {s w : Text}

theorem IsFirstPlace.unique {p : Text → Text → Prop} {before behind before' behind' : Text}
    (h : IsFirstPlace p s w before behind) (h' : IsFirstPlace p s w before' behind') :
    before = before' ∧ behind = behind' := by
  have hlength : before.length = before'.length :=
    Nat.le_antisymm (h.earliest _ _ h'.parts h'.allowed) (h'.earliest _ _ h.parts h.allowed)
  have hparts := h.parts.trans h'.parts.symm
  rw [List.append_assoc, List.append_assoc] at hparts
  obtain ⟨hbefore, hrest⟩ := List.append_inj hparts hlength
  exact ⟨hbefore, List.append_cancel_left hrest⟩

theorem cut?_spanBehind (before w behind : Text) :
    (spanBehind before w).cut? (before ++ w ++ behind) = some (before, w, behind) :=
  Span.cut?_eq_some_iff.2 ⟨rfl, rfl, size_append before w⟩

theorem IsFirstPlace.cut?_eq {p : Text → Text → Prop} {before behind : Text}
    (h : IsFirstPlace p s w before behind) :
    (spanBehind before w).cut? s = some (before, w, behind) := by
  rw [← h.parts, cut?_spanBehind]

theorem isEmpty_spanBehind (before : Text) {w : Text} (h : w ≠ []) :
    (spanBehind before w).isEmpty = false := by
  have := size_pos h
  rw [Span.isEmpty, decide_eq_false_iff_not]
  simp only [spanBehind]
  omega

theorem spanOf?_eq_some_iff {r : Span} : spanOf? s w = some r ↔
    ∃ before behind, IsFirstPlace (fun _ _ => True) s w before behind ∧
      r = spanBehind before w := by
  rw [spanOf?, Option.map_eq_some_iff]
  constructor
  · rintro ⟨⟨before, behind⟩, hfound, rfl⟩
    obtain ⟨hparts, hearliest⟩ := around?_eq_some_iff.1 hfound
    exact ⟨before, behind, ⟨hparts, trivial, fun a b hab _ => hearliest a b hab⟩, rfl⟩
  · rintro ⟨before, behind, h, rfl⟩
    have hearliest : ∀ a b, a ++ w ++ b = s → before.length ≤ a.length :=
      fun a b hab => h.earliest a b hab trivial
    exact ⟨(before, behind), around?_eq_some_iff.2 ⟨h.parts, hearliest⟩, rfl⟩

theorem spanOf?_eq_none_iff : spanOf? s w = none ↔ ¬ w <:+: s := by
  rw [spanOf?, Option.map_eq_none_iff, around?_eq_none_iff]

/-! ### Occurrences -/

theorem append_of_mem_occurrences {w seen rest : Text} {p : Text × Text}
    (h : p ∈ occurrences w seen rest) : p.1 ++ w ++ p.2 = seen ++ rest := by
  fun_induction occurrences w seen rest with
  | case1 => cases h
  | case2 seen rest before behind hfound ih =>
      have hrest := eq_append_of_around? hfound
      rcases List.mem_cons.1 h with rfl | h
      · simp only [← hrest, List.append_assoc]
      · split at h
        case isTrue hshorter =>
          rw [ih hshorter h, ← hrest]
          simp only [List.append_assoc]
        case isFalse => cases h

theorem le_length_of_mem_occurrences {seen rest : Text} {p : Text × Text}
    (h : p ∈ occurrences w seen rest) : seen.length ≤ p.1.length := by
  fun_induction occurrences w seen rest with
  | case1 => cases h
  | case2 seen rest before behind hfound ih =>
      rcases List.mem_cons.1 h with rfl | h
      · simp
      · split at h
        case isTrue hshorter =>
          have hle := ih hshorter h
          rw [List.length_append, List.length_append] at hle
          omega
        case isFalse => cases h

theorem pairwise_occurrences (hw : w ≠ []) (seen rest : Text) :
    (occurrences w seen rest).Pairwise fun p q => p.1.length < q.1.length := by
  fun_induction occurrences w seen rest with
  | case1 => exact .nil
  | case2 seen rest before behind hfound ih =>
      have hpos := List.length_pos_iff.2 hw
      refine List.pairwise_cons.2 ⟨fun q hq => ?_, ?_⟩
      · split at hq
        case isTrue =>
          have hle := le_length_of_mem_occurrences hq
          rw [List.length_append] at hle
          exact Nat.lt_of_lt_of_le (Nat.lt_add_of_pos_right hpos) hle
        case isFalse => cases hq
      · split
        case isTrue hshorter => exact ih hshorter
        case isFalse => exact .nil

/-- In front of an occurrence that overlaps an earlier one stands a character of the word. -/
theorem exists_mem_of_overlap {a b a' b' : Text} (h : a ++ w ++ b = a' ++ w ++ b')
    (hbehind : a.length < a'.length) (hoverlap : a'.length < a.length + w.length) :
    ∃ c ∈ a'.getLast?, c ∈ w := by
  have hparts : a' <+: a ++ w := by
    have ha' : a' <+: a' ++ w ++ b' := ⟨w ++ b', (List.append_assoc a' w b').symm⟩
    refine List.prefix_of_prefix_length_le ha' ⟨b, h⟩ ?_
    rw [List.length_append]
    omega
  obtain ⟨u, rfl⟩ : a <+: a' :=
    List.prefix_of_prefix_length_le (List.prefix_append a w) hparts (Nat.le_of_lt hbehind)
  have hu : u <+: w := (List.prefix_append_right_inj a).1 hparts
  have hne : u ≠ [] := by
    rintro rfl
    simp at hbehind
  refine ⟨u.getLast hne, ?_, hu.subset (List.getLast_mem hne)⟩
  rw [List.getLast?_append_of_ne_nil _ hne, List.getLast?_eq_some_getLast hne]
  rfl

/-- An occurrence is the first one, or stands behind a character of the word, or lies in what is
left behind the first one. -/
theorem cases_of_around? {s a b a' b' : Text} (hfirst : around? s w = some (a, b))
    (hparts : a' ++ w ++ b' = s) :
    (a' = a ∧ b' = b) ∨ (∃ c ∈ a'.getLast?, c ∈ w) ∨ ∃ u, a' = a ++ w ++ u ∧ u ++ w ++ b' = b := by
  have hs := eq_append_of_around? hfirst
  have heq : a ++ w ++ b = a' ++ w ++ b' := hs.trans hparts.symm
  rcases Nat.eq_or_lt_of_le (length_le_of_around? hfirst hparts) with hlength | hlt
  · refine .inl ?_
    rw [List.append_assoc, List.append_assoc] at heq
    obtain ⟨rfl, hrest⟩ := List.append_inj heq hlength
    exact ⟨rfl, (List.append_cancel_left hrest).symm⟩
  · rcases Nat.lt_or_ge a'.length (a.length + w.length) with hoverlap | hge
    · exact .inr (.inl (exists_mem_of_overlap heq hlt hoverlap))
    · refine .inr (.inr ?_)
      obtain ⟨u, rfl⟩ : a ++ w <+: a' := by
        have ha' : a' <+: s := ⟨w ++ b', by rw [← hparts, List.append_assoc]⟩
        refine List.prefix_of_prefix_length_le ⟨b, hs⟩ ha' ?_
        rwa [List.length_append]
      rw [List.append_assoc _ u, List.append_assoc _ (u ++ w)] at heq
      exact ⟨u, rfl, (List.append_cancel_left heq).symm⟩

/-- The search for a word of identifier characters passes over no place where it stands alone. -/
theorem mem_occurrences (hw : w ≠ []) (hchars : ∀ c ∈ w, isIdentifierChar c = true)
    {seen rest a behind : Text} (hrest : a ++ w ++ behind = rest) (h : IsApart (seen ++ a) behind) :
    (seen ++ a, behind) ∈ occurrences w seen rest := by
  fun_induction occurrences w seen rest generalizing a with
  | case1 seen rest hnone => exact absurd ⟨a, behind, hrest⟩ (around?_eq_none_iff.1 hnone)
  | case2 seen rest before' behind' hfound ih =>
      rcases cases_of_around? hfound hrest with ⟨rfl, rfl⟩ | ⟨c, hlast, hc⟩ | ⟨u, rfl, hbehind⟩
      · exact List.mem_cons_self
      · have hnone := h.1 c (by rw [List.getLast?_append, hlast]; rfl)
        rw [hchars c hc] at hnone
        cases hnone
      · have hshorter : behind'.length < rest.length := by
          have hpos := List.length_pos_iff.2 hw
          rw [← eq_append_of_around? hfound, List.length_append, List.length_append]
          omega
        rw [← List.append_assoc, ← List.append_assoc] at h ⊢
        rw [if_pos hshorter]
        exact List.mem_cons_of_mem _ (ih hshorter hbehind h)

/-! ### Words that stand alone -/

/-- The first occurrence found that stands alone is the first of all that do. -/
theorem isFirstPlace_of_find? (hw : w ≠ []) (hchars : ∀ c ∈ w, isIdentifierChar c = true)
    {p : Text × Text}
    (h : (occurrences w [] s).find? (fun p => standsAlone p.1 p.2) = some p) :
    IsFirstPlace IsApart s w p.1 p.2 := by
  have hmem := List.mem_of_find?_eq_some h
  obtain ⟨halone, before, behind, hlist, hbefore⟩ := List.find?_eq_some_iff_append.1 h
  refine ⟨append_of_mem_occurrences hmem, standsAlone_iff.1 halone, fun a b hab hapart => ?_⟩
  have hother : (a, b) ∈ occurrences w [] s := mem_occurrences hw hchars hab hapart
  have hsorted := pairwise_occurrences hw [] s
  rw [hlist] at hother hsorted
  rcases List.mem_append.1 hother with hother | hother
  · have hnot := hbefore (a, b) hother
    rw [standsAlone_iff.2 hapart] at hnot
    cases hnot
  · rcases List.mem_cons.1 hother with rfl | hother
    · exact Nat.le_refl _
    · have hlt := (List.pairwise_cons.1 (List.pairwise_append.1 hsorted).2.1).1 _ hother
      exact Nat.le_of_lt hlt

theorem find?_occurrences_eq_some_iff (hw : w ≠ []) (hchars : ∀ c ∈ w, isIdentifierChar c = true)
    {p : Text × Text} :
    (occurrences w [] s).find? (fun p => standsAlone p.1 p.2) = some p ↔
      IsFirstPlace IsApart s w p.1 p.2 := by
  refine ⟨isFirstPlace_of_find? hw hchars, fun h => ?_⟩
  have hmem : (p.1, p.2) ∈ occurrences w [] s := mem_occurrences hw hchars h.parts h.allowed
  cases hfound : (occurrences w [] s).find? (fun p => standsAlone p.1 p.2) with
  | none =>
      have hnot := List.find?_eq_none.1 hfound _ hmem
      exact absurd (standsAlone_iff.2 h.allowed) hnot
  | some q =>
      obtain ⟨hbefore, hbehind⟩ := (isFirstPlace_of_find? hw hchars hfound).unique h
      rw [← Prod.eta q, hbefore, hbehind]

theorem wordSpan?_eq_some_iff (hw : w ≠ []) (hchars : ∀ c ∈ w, isIdentifierChar c = true)
    {r : Span} : wordSpan? s w = some r ↔
      ∃ before behind, IsFirstPlace IsApart s w before behind ∧ r = spanBehind before w := by
  constructor
  · intro h
    obtain ⟨p, hfound, rfl⟩ := Option.map_eq_some_iff.1 h
    exact ⟨p.1, p.2, (find?_occurrences_eq_some_iff hw hchars).1 hfound, rfl⟩
  · rintro ⟨before, behind, h, rfl⟩
    exact Option.map_eq_some_iff.2
      ⟨(before, behind), (find?_occurrences_eq_some_iff hw hchars).2 h, rfl⟩

theorem wordSpan?_eq_none_iff (hw : w ≠ []) (hchars : ∀ c ∈ w, isIdentifierChar c = true) :
    wordSpan? s w = none ↔ ∀ before behind, before ++ w ++ behind = s → ¬ IsApart before behind := by
  rw [wordSpan?, Option.map_eq_none_iff, List.find?_eq_none]
  constructor
  · intro h before behind hparts hapart
    exact h (before, behind) (mem_occurrences hw hchars hparts hapart) (standsAlone_iff.2 hapart)
  · intro h p hp halone
    exact h p.1 p.2 (append_of_mem_occurrences hp) (standsAlone_iff.1 halone)

end TypeReport.Text
