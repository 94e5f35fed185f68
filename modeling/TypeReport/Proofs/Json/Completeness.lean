import TypeReport.Proofs.Json.Grammar
import TypeReport.Proofs.Leading

/-! # Reading what the grammar allows

The reader reads every document that the grammar allows, and reads it as the value
that the grammar gives it (`read?_of_document`).  Hence no text is a document with
two values (`Document.unique`).  A phrase in front of other text is read up to its
end, with as much fuel as it has characters (`Spells.reads`); behind a number the
other text must not go on with a digit. -/

namespace TypeReport.Json

/-! ### Strings -/

theorem charOf?_toNat (c : Char) : charOf? c.toNat = some c := by
  have hvalid : c.toNat.isValidChar := c.valid
  rw [charOf?, if_pos hvalid, Char.ofNat_toNat]

theorem readUnit?_append {digits : Text} {n : Nat} (h : IsUnit digits n) (rest : Text) :
    readUnit? (digits ++ rest) = some (n, rest) := by
  obtain ⟨hlength, hvalue⟩ := h
  match digits, hlength with
  | [a, b, c, d], _ =>
      obtain ⟨values, hvalues, hn⟩ := Option.map_eq_some_iff.1 hvalue
      subst hn
      simp only [readUnit?, List.cons_append, List.nil_append, hvalues]
      rfl

theorem readUnits?_unit {digits : Text} {c : Char} (h : IsUnit digits c.toNat) (rest : Text) :
    readUnits? (digits ++ rest) = some (c, rest) := by
  have hvalid : c.toNat.isValidChar := c.valid
  have hhigh : ¬ (0xd800 ≤ c.toNat ∧ c.toNat < 0xdc00) := by
    unfold Nat.isValidChar at hvalid
    omega
  simp only [readUnits?, readUnit?_append h, Option.bind_eq_bind, Option.bind_some,
    Bool.and_eq_true, decide_eq_true_eq, if_neg hhigh, charOf?_toNat]
  rfl

theorem readUnits?_pair {first second : Text} {high low : Nat} {c : Char}
    (hfirst : IsUnit first high) (hsecond : IsUnit second low)
    (hhigh : 0xd800 ≤ high ∧ high < 0xdc00) (hlow : 0xdc00 ≤ low ∧ low < 0xe000)
    (hc : c.toNat = 0x10000 + 0x400 * (high - 0xd800) + (low - 0xdc00)) (rest : Text) :
    readUnits? (first ++ '\\' :: 'u' :: (second ++ rest)) = some (c, rest) := by
  have hmark : Text.after? ('\\' :: 'u' :: (second ++ rest)) "\\u".toList = some (second ++ rest) :=
    Text.after?_eq_some_iff.2 rfl
  simp only [readUnits?, readUnit?_append hfirst, Option.bind_eq_bind, Option.bind_some,
    Bool.and_eq_true, decide_eq_true_eq, if_pos hhigh, hmark, readUnit?_append hsecond,
    if_pos hlow, ← hc, charOf?_toNat]
  rfl

theorem readEscape?_short {c letter : Char} (h : (letter, c) ∈ shortEscapes) (rest : Text) :
    readEscape? (letter :: rest) = some (c, rest) := by
  simp only [shortEscapes, List.mem_cons, Prod.mk.injEq, List.not_mem_nil, or_false] at h
  rcases h with h | h | h | h | h | h | h | h <;> obtain ⟨rfl, rfl⟩ := h <;> rfl

theorem readString?_escape {c : Char} {s rest : Text} (h : readEscape? s = some (c, rest))
    (fuel : Nat) :
    readString? (fuel + 1) ('\\' :: s) = do
      let (cs, rest) ← readString? fuel rest
      return (c :: cs, rest) := by
  rw [readString?, if_neg (by decide), if_pos rfl, h]
  rfl

theorem readString?_char {c : Char} {s : Text} (h : CharText c s) (fuel : Nat) (t : Text) :
    readString? (fuel + 1) (s ++ t) = do
      let (cs, rest) ← readString? fuel t
      return (c :: cs, rest) := by
  cases h with
  | plain hc hquote hbackslash =>
      rw [List.singleton_append, readString?, if_neg hquote, if_neg hbackslash,
        if_neg (Nat.not_lt.2 hc)]
  | short h => exact readString?_escape (readEscape?_short h t) fuel
  | unit h =>
      refine readString?_escape ?_ fuel
      exact readUnits?_unit h t
  | @pair first second high low hfirst hsecond hhigh hlow hc =>
      have hread := readUnits?_pair hfirst hsecond hhigh hlow hc t
      rw [List.cons_append, List.cons_append, List.append_assoc]
      refine readString?_escape ?_ fuel
      exact hread

theorem readString?_append {cs s : Text} (h : StringText cs s) {fuel : Nat}
    (hfuel : s.length < fuel) (rest : Text) :
    readString? fuel (s ++ '"' :: rest) = some (cs, rest) := by
  induction h generalizing fuel with
  | nil =>
      obtain ⟨fuel, rfl⟩ := Nat.exists_eq_add_one_of_ne_zero (by omega : fuel ≠ 0)
      rw [List.nil_append, readString?, if_pos rfl]
  | @cons c cs s t hc hcs ih =>
      obtain ⟨fuel, rfl⟩ := Nat.exists_eq_add_one_of_ne_zero (by omega : fuel ≠ 0)
      have hlength : 0 < s.length := by cases hc <;> simp
      rw [List.length_append] at hfuel
      rw [List.append_assoc, readString?_char hc, ih (by omega)]
      rfl

/-! ### Numbers and words -/

/-- Whether a text does not go on with a digit. -/
def EndsNumeral (s : Text) : Prop := ∀ c ∈ s.head?, c.isDigit = false

theorem endsNumeral_cons {c : Char} (hc : c.isDigit = false) (s : Text) : EndsNumeral (c :: s) := by
  intro d hd
  cases hd
  exact hc

theorem not_isDigit_of_isSpace {c : Char} (h : isSpace c = true) : c.isDigit = false := by
  simp only [isSpace, Bool.or_eq_true, decide_eq_true_eq] at h
  rcases h with ((rfl | rfl) | rfl) | rfl <;> rfl

theorem endsNumeral_append {b s : Text} (hb : IsGap b) (hs : EndsNumeral s) :
    EndsNumeral (b ++ s) := by
  cases b with
  | nil => exact hs
  | cons c b => exact endsNumeral_cons (not_isDigit_of_isSpace (hb c (by simp))) _

theorem endsNumeral_gap {b : Text} (hb : IsGap b) : EndsNumeral b := by
  have := endsNumeral_append hb (s := []) (by simp [EndsNumeral])
  rwa [List.append_nil] at this

theorem readNumber?_append {n : Nat} {s rest : Text} (h : IsNumeral n s) (hrest : EndsNumeral rest) :
    readNumber? (s ++ rest) = some (n, rest) := by
  obtain ⟨hne, hdigits, hzero, hn⟩ := h
  simp only [readNumber?, takeWhile_append_eq hdigits hrest, dropWhile_append_eq hdigits hrest, hn]
  exact if_pos ⟨hne, hzero⟩

theorem ne_of_isDigit {c d : Char} (hc : c.isDigit = true) (hd : d.isDigit = false) : c ≠ d := by
  rintro rfl
  rw [hc] at hd
  cases hd

theorem isSpace_eq_false_of_isDigit {c : Char} (h : c.isDigit = true) : isSpace c = false := by
  cases hs : isSpace c with
  | false => rfl
  | true =>
      rw [not_isDigit_of_isSpace hs] at h
      cases h

theorem exists_digit_of_isNumeral {n : Nat} {s : Text} (h : IsNumeral n s) :
    ∃ c t, s = c :: t ∧ c.isDigit = true := by
  obtain ⟨hne, hdigits, -⟩ := h
  obtain ⟨c, t, rfl⟩ := List.exists_cons_of_ne_nil hne
  exact ⟨c, t, rfl, hdigits c (by simp)⟩

theorem readWord?_of_isDigit {c : Char} (h : c.isDigit = true) (s : Text) :
    readWord? (c :: s) = none := by
  have hn := ne_of_isDigit (d := 'n') h rfl
  have ht := ne_of_isDigit (d := 't') h rfl
  have hf := ne_of_isDigit (d := 'f') h rfl
  simp [readWord?, Text.after?, hn, ht, hf]

/-! ### One step of the reader -/

theorem readValue?_append {b : Text} (hb : IsGap b) (fuel : Nat) (s : Text) :
    readValue? fuel (b ++ s) = readValue? fuel s := by
  cases fuel with
  | zero => rw [readValue?, readValue?]
  | succ fuel => simp only [readValue?, skipSpace_append hb]

theorem readValue?_skipSpace (fuel : Nat) (s : Text) :
    readValue? fuel (skipSpace s) = readValue? fuel s := by
  cases fuel with
  | zero => rw [readValue?, readValue?]
  | succ fuel => simp only [readValue?, skipSpace_skipSpace]

theorem readItems?_skipSpace (fuel : Nat) (s : Text) :
    readItems? fuel (skipSpace s) = readItems? fuel s := by
  cases fuel with
  | zero => rw [readItems?, readItems?]
  | succ fuel => simp only [readItems?, readValue?_skipSpace]

theorem readFields?_skipSpace (fuel : Nat) (s : Text) :
    readFields? fuel (skipSpace s) = readFields? fuel s := by
  cases fuel with
  | zero => rw [readFields?, readFields?]
  | succ fuel => simp only [readFields?, skipSpace_skipSpace]

theorem readValue?_number {n : Nat} {s rest : Text} (h : IsNumeral n s) (hrest : EndsNumeral rest)
    (fuel : Nat) : readValue? (fuel + 1) (s ++ rest) = some (number n, rest) := by
  have hread := readNumber?_append h hrest
  obtain ⟨c, t, rfl, hc⟩ := exists_digit_of_isNumeral h
  have hquote := ne_of_isDigit (d := '"') hc rfl
  have hbracket := ne_of_isDigit (d := '[') hc rfl
  have hbrace := ne_of_isDigit (d := '\x7b') hc rfl
  rw [List.cons_append] at hread ⊢
  rw [readValue?, skipSpace_cons (isSpace_eq_false_of_isDigit hc)]
  split
  · next h => exact absurd (List.cons.inj h).1 hquote
  · next h => exact absurd (List.cons.inj h).1 hbracket
  · next h => exact absurd (List.cons.inj h).1 hbrace
  · rw [readWord?_of_isDigit hc, hread]
    rfl

theorem readValue?_string {fuel : Nat} {s r rest cs : Text} (hs : skipSpace s = '"' :: r)
    (hr : readString? fuel r = some (cs, rest)) :
    readValue? (fuel + 1) s = some (string cs, rest) := by
  simp only [readValue?, hs, hr, Option.bind_eq_bind, Option.bind_some]
  rfl

theorem readValue?_array {fuel : Nat} {r rest : Text} {vs : List Json} {c : Char} {t : Text}
    (hc : skipSpace r = c :: t) (hne : c ≠ ']') (hr : readItems? fuel r = some (vs, rest)) :
    readValue? (fuel + 1) ('[' :: r) = some (array vs, rest) := by
  rw [← readItems?_skipSpace, hc] at hr
  rw [readValue?, skipSpace_cons rfl]
  simp only [hc]
  split
  · next h => exact absurd (List.cons.inj h).1 hne
  · rw [hr]
    rfl

theorem readValue?_object {fuel : Nat} {r rest : Text} {fields : List (Text × Json)} {c : Char}
    {t : Text} (hc : skipSpace r = c :: t) (hne : c ≠ '\x7d')
    (hr : readFields? fuel r = some (fields, rest)) :
    readValue? (fuel + 1) ('\x7b' :: r) = some (object fields, rest) := by
  rw [← readFields?_skipSpace, hc] at hr
  rw [readValue?, skipSpace_cons rfl]
  simp only [hc]
  split
  · next h => exact absurd (List.cons.inj h).1 hne
  · rw [hr]
    rfl

theorem readItems?_last {fuel : Nat} {s r rest : Text} {v : Json}
    (hv : readValue? fuel s = some (v, r)) (hr : skipSpace r = ']' :: rest) :
    readItems? (fuel + 1) s = some ([v], rest) := by
  simp only [readItems?, hv, Option.bind_eq_bind, Option.bind_some, hr]
  rfl

theorem readItems?_more {fuel : Nat} {s r t rest : Text} {v : Json} {vs : List Json}
    (hv : readValue? fuel s = some (v, r)) (hr : skipSpace r = ',' :: t)
    (hvs : readItems? fuel t = some (vs, rest)) :
    readItems? (fuel + 1) s = some (v :: vs, rest) := by
  simp only [readItems?, hv, Option.bind_eq_bind, Option.bind_some, hr, hvs]
  rfl

/-- Whether a field at the start of a text is read. -/
def ReadsField (fuel : Nat) (s : Text) (key : Text) (v : Json) (rest : Text) : Prop :=
  ∃ r₁ r₂ r₃, skipSpace s = '"' :: r₁ ∧ readString? fuel r₁ = some (key, r₂) ∧
    skipSpace r₂ = ':' :: r₃ ∧ readValue? fuel r₃ = some (v, rest)

theorem readFields?_last {fuel : Nat} {s key r rest : Text} {v : Json}
    (hfield : ReadsField fuel s key v r) (hr : skipSpace r = '\x7d' :: rest) :
    readFields? (fuel + 1) s = some ([(key, v)], rest) := by
  obtain ⟨r₁, r₂, r₃, h₁, h₂, h₃, h₄⟩ := hfield
  have hquote : Text.after? ('"' :: r₁) ['"'] = some r₁ := Text.after?_eq_some_iff.2 rfl
  have hcolon : Text.after? (':' :: r₃) [':'] = some r₃ := Text.after?_eq_some_iff.2 rfl
  simp only [readFields?, h₁, hquote, h₂, h₃, hcolon, h₄, Option.bind_eq_bind, Option.bind_some, hr]
  rfl

theorem readFields?_more {fuel : Nat} {s key r t rest : Text} {v : Json}
    {fields : List (Text × Json)} (hfield : ReadsField fuel s key v r)
    (hr : skipSpace r = ',' :: t) (hfields : readFields? fuel t = some (fields, rest)) :
    readFields? (fuel + 1) s = some ((key, v) :: fields, rest) := by
  obtain ⟨r₁, r₂, r₃, h₁, h₂, h₃, h₄⟩ := hfield
  have hquote : Text.after? ('"' :: r₁) ['"'] = some r₁ := Text.after?_eq_some_iff.2 rfl
  have hcolon : Text.after? (':' :: r₃) [':'] = some r₃ := Text.after?_eq_some_iff.2 rfl
  simp only [readFields?, h₁, hquote, h₂, h₃, hcolon, h₄, Option.bind_eq_bind, Option.bind_some, hr,
    hfields]
  rfl

/-! ### Phrases -/

/-- No phrase starts like the end of an array or of an object. -/
theorem Spells.skipSpace_append {p : Phrase} {s : Text} (h : Spells p s) (rest : Text) :
    ∃ c t, skipSpace (s ++ rest) = c :: t ∧ c ≠ ']' ∧ c ≠ '\x7d' := by
  induction h generalizing rest with
  | number h =>
      obtain ⟨c, t, rfl, hc⟩ := exists_digit_of_isNumeral h
      exact ⟨c, t ++ rest, skipSpace_cons (isSpace_eq_false_of_isDigit hc) _,
        ne_of_isDigit hc rfl, ne_of_isDigit hc rfl⟩
  | last hbefore hp hbehind ih =>
      rw [List.append_assoc, List.append_assoc, Json.skipSpace_append hbefore]
      exact ih _
  | more hbefore hp hbehind hps ih =>
      rw [List.append_assoc, List.append_assoc, List.append_assoc, Json.skipSpace_append hbefore]
      exact ih _
  | _ => exact ⟨_, _, skipSpace_cons rfl _, by decide, by decide⟩

/-- What reading a phrase comes to: one in front of other text is read up to its end. -/
def Reads : Phrase → Text → Prop
  | .value v, s => ∀ fuel rest, s.length ≤ fuel → EndsNumeral rest →
      readValue? fuel (s ++ rest) = some (v, rest)
  | .field key v, s => ∀ fuel rest, s.length ≤ fuel → EndsNumeral rest →
      ReadsField fuel (s ++ rest) key v rest
  | .elements ps, s =>
      (∀ vs, ps = vs.map .value → ∀ fuel rest, s.length < fuel →
        readItems? fuel (s ++ ']' :: rest) = some (vs, rest)) ∧
      ∀ fields, ps = fields.map .ofField → ∀ fuel rest, s.length < fuel →
        readFields? fuel (s ++ '\x7d' :: rest) = some (fields, rest)

theorem ReadsField.append_gap {fuel : Nat} {b s key rest : Text} {v : Json} (hb : IsGap b)
    (h : ReadsField fuel s key v rest) : ReadsField fuel (b ++ s) key v rest := by
  rw [ReadsField, Json.skipSpace_append hb]
  exact h

/-! ### Values -/

/-- A value is read in a step of the reader, since no value is written as nothing. -/
theorem reads_value {v : Json} {s : Text} (hs : 0 < s.length)
    (h : ∀ fuel rest, s.length ≤ fuel + 1 → EndsNumeral rest →
      readValue? (fuel + 1) (s ++ rest) = some (v, rest)) : Reads (.value v) s := by
  intro fuel rest hfuel hrest
  obtain ⟨fuel, rfl⟩ : ∃ k, fuel = k + 1 := Nat.exists_eq_add_one.2 (by omega)
  exact h fuel rest hfuel hrest

theorem reads_word {v : Json} {c : Char} {w : Text} (hc : isSpace c = false)
    (hspecial : c ≠ '"' ∧ c ≠ '[' ∧ c ≠ '\x7b')
    (hword : ∀ rest, readWord? (c :: w ++ rest) = some (v, rest)) : Reads (.value v) (c :: w) := by
  refine reads_value (by simp) fun fuel rest _ _ => ?_
  obtain ⟨hquote, hbracket, hbrace⟩ := hspecial
  have hread := hword rest
  rw [List.cons_append] at hread ⊢
  rw [readValue?, skipSpace_cons hc]
  split
  · next h => exact absurd (List.cons.inj h).1 hquote
  · next h => exact absurd (List.cons.inj h).1 hbracket
  · next h => exact absurd (List.cons.inj h).1 hbrace
  · rw [hread]
    rfl

theorem reads_number {n : Nat} {s : Text} (h : IsNumeral n s) : Reads (.value (.number n)) s := by
  refine reads_value (List.length_pos_iff.2 h.1) fun fuel rest _ hrest => ?_
  exact readValue?_number h hrest fuel

theorem reads_string {cs s : Text} (h : StringText cs s) :
    Reads (.value (.string cs)) ('"' :: s ++ ['"']) := by
  refine reads_value (by simp) fun fuel rest hfuel _ => ?_
  simp only [List.length_append, List.length_cons, List.length_nil] at hfuel
  rw [List.cons_append, List.cons_append, List.append_assoc]
  exact readValue?_string (skipSpace_cons rfl _) (readString?_append h (by omega) rest)

theorem reads_emptyArray {s : Text} (h : IsGap s) :
    Reads (.value (.array [])) ('[' :: s ++ [']']) := by
  refine reads_value (by simp) fun fuel rest _ _ => ?_
  have hclose := skipSpace_append_cons h (c := ']') rfl rest
  rw [List.cons_append, List.cons_append, List.append_assoc, readValue?, skipSpace_cons rfl]
  simp only [List.singleton_append, hclose]

theorem reads_array {vs : List Json} {s : Text} (h : Spells (.elements (vs.map .value)) s)
    (hs : Reads (.elements (vs.map .value)) s) :
    Reads (.value (.array vs)) ('[' :: s ++ [']']) := by
  refine reads_value (by simp) fun fuel rest hfuel _ => ?_
  simp only [List.length_append, List.length_cons, List.length_nil] at hfuel
  obtain ⟨c, t, hc, hne, -⟩ := h.skipSpace_append (']' :: rest)
  have hread := hs.1 vs rfl fuel rest (by omega)
  rw [List.cons_append, List.cons_append, List.append_assoc]
  exact readValue?_array hc hne hread

theorem reads_emptyObject {s : Text} (h : IsGap s) :
    Reads (.value (.object [])) ('\x7b' :: s ++ ['\x7d']) := by
  refine reads_value (by simp) fun fuel rest _ _ => ?_
  have hclose := skipSpace_append_cons h (c := '\x7d') rfl rest
  rw [List.cons_append, List.cons_append, List.append_assoc, readValue?, skipSpace_cons rfl]
  simp only [List.singleton_append, hclose]

theorem reads_object {fields : List (Text × Json)} {s : Text}
    (h : Spells (.elements (fields.map .ofField)) s)
    (hs : Reads (.elements (fields.map .ofField)) s) :
    Reads (.value (.object fields)) ('\x7b' :: s ++ ['\x7d']) := by
  refine reads_value (by simp) fun fuel rest hfuel _ => ?_
  simp only [List.length_append, List.length_cons, List.length_nil] at hfuel
  obtain ⟨c, t, hc, -, hne⟩ := h.skipSpace_append ('\x7d' :: rest)
  have hread := hs.2 fields rfl fuel rest (by omega)
  rw [List.cons_append, List.cons_append, List.append_assoc]
  exact readValue?_object hc hne hread

/-! ### Elements -/

theorem reads_field {key keyText before behind s : Text} {v : Json} (hkey : StringText key keyText)
    (hbefore : IsGap before) (hbehind : IsGap behind) (hs : Reads (.value v) s) :
    Reads (.field key v) ('"' :: keyText ++ '"' :: before ++ ':' :: behind ++ s) := by
  intro fuel rest hfuel hrest
  simp only [List.length_append, List.length_cons] at hfuel
  have hlt : keyText.length < fuel := by omega
  have hcolon := skipSpace_append_cons hbefore (c := ':') rfl (behind ++ (s ++ rest))
  have hread := readString?_append hkey hlt (before ++ ':' :: (behind ++ (s ++ rest)))
  refine ⟨keyText ++ '"' :: (before ++ ':' :: (behind ++ (s ++ rest))), _, _, ?_, hread,
    hcolon, ?_⟩
  · simp only [List.cons_append, List.append_assoc]
    exact skipSpace_cons rfl _
  · rw [readValue?_append hbehind]
    exact hs fuel rest (by omega) hrest

theorem reads_last {p : Phrase} {before s behind : Text} (hbefore : IsGap before)
    (hbehind : IsGap behind) (hs : Reads p s) :
    Reads (.elements [p]) (before ++ s ++ behind) := by
  refine ⟨fun vs hvs fuel rest hfuel => ?_, fun fields hfields fuel rest hfuel => ?_⟩
  · obtain ⟨v, rfl, rfl⟩ := List.map_eq_singleton_iff.1 hvs.symm
    simp only [List.length_append] at hfuel
    obtain ⟨fuel, rfl⟩ : ∃ k, fuel = k + 1 := Nat.exists_eq_add_one.2 (by omega)
    have hclose := skipSpace_append_cons hbehind (c := ']') rfl rest
    rw [List.append_assoc, List.append_assoc]
    refine readItems?_last ?_ hclose
    rw [readValue?_append hbefore]
    exact hs fuel _ (by omega) (endsNumeral_append hbehind (endsNumeral_cons rfl _))
  · obtain ⟨⟨key, v⟩, rfl, rfl⟩ := List.map_eq_singleton_iff.1 hfields.symm
    simp only [List.length_append] at hfuel
    obtain ⟨fuel, rfl⟩ : ∃ k, fuel = k + 1 := Nat.exists_eq_add_one.2 (by omega)
    have hclose := skipSpace_append_cons hbehind (c := '\x7d') rfl rest
    rw [List.append_assoc, List.append_assoc]
    refine readFields?_last (ReadsField.append_gap hbefore ?_) hclose
    exact hs fuel _ (by omega) (endsNumeral_append hbehind (endsNumeral_cons rfl _))

theorem reads_more {p : Phrase} {ps : List Phrase} {before s behind t : Text}
    (hbefore : IsGap before) (hbehind : IsGap behind) (hs : Reads p s)
    (ht : Reads (.elements ps) t) :
    Reads (.elements (p :: ps)) (before ++ s ++ behind ++ ',' :: t) := by
  refine ⟨fun vs hvs fuel rest hfuel => ?_, fun fields hfields fuel rest hfuel => ?_⟩
  · obtain ⟨v, vs, rfl, rfl, rfl⟩ := List.map_eq_cons_iff.1 hvs.symm
    simp only [List.length_append, List.length_cons] at hfuel
    obtain ⟨fuel, rfl⟩ : ∃ k, fuel = k + 1 := Nat.exists_eq_add_one.2 (by omega)
    have hcomma := skipSpace_append_cons hbehind (c := ',') rfl (t ++ ']' :: rest)
    have hread := ht.1 vs rfl fuel rest (by omega)
    rw [List.append_assoc, List.append_assoc, List.append_assoc, List.cons_append]
    refine readItems?_more ?_ hcomma hread
    rw [readValue?_append hbefore]
    exact hs fuel _ (by omega) (endsNumeral_append hbehind (endsNumeral_cons rfl _))
  · obtain ⟨⟨key, v⟩, fields, rfl, rfl, rfl⟩ := List.map_eq_cons_iff.1 hfields.symm
    simp only [List.length_append, List.length_cons] at hfuel
    obtain ⟨fuel, rfl⟩ : ∃ k, fuel = k + 1 := Nat.exists_eq_add_one.2 (by omega)
    have hcomma := skipSpace_append_cons hbehind (c := ',') rfl (t ++ '\x7d' :: rest)
    have hread := ht.2 fields rfl fuel rest (by omega)
    rw [List.append_assoc, List.append_assoc, List.append_assoc, List.cons_append]
    refine readFields?_more (ReadsField.append_gap hbefore ?_) hcomma hread
    exact hs fuel _ (by omega) (endsNumeral_append hbehind (endsNumeral_cons rfl _))

theorem Spells.reads {p : Phrase} {s : Text} (h : Spells p s) : Reads p s := by
  induction h with
  | null => exact reads_word rfl (by decide) fun rest => by simp [readWord?, Text.after?]
  | true => exact reads_word rfl (by decide) fun rest => by simp [readWord?, Text.after?]
  | false => exact reads_word rfl (by decide) fun rest => by simp [readWord?, Text.after?]
  | number h => exact reads_number h
  | string h => exact reads_string h
  | emptyArray h => exact reads_emptyArray h
  | array h ih => exact reads_array h ih
  | emptyObject h => exact reads_emptyObject h
  | object h ih => exact reads_object h ih
  | field hkey hbefore hbehind hv ih => exact reads_field hkey hbefore hbehind ih
  | last hbefore hp hbehind ih => exact reads_last hbefore hbehind ih
  | more hbefore hp hbehind hps ihp ihps => exact reads_more hbefore hbehind ihp ihps

/-! ### Documents -/

theorem read?_of_document {v : Json} {s : Text} (h : Document v s) : read? s = some v := by
  obtain ⟨before, t, behind, rfl, hbefore, hbehind, hv⟩ := h
  have hread := hv.reads ((before ++ t ++ behind).length + 1) behind (by simp; omega)
    (endsNumeral_gap hbehind)
  have hvalue : readValue? ((before ++ t ++ behind).length + 1) (before ++ t ++ behind) =
      some (v, behind) := by
    rw [← hread, List.append_assoc, readValue?_append hbefore]
  simp only [read?, hvalue, Option.bind_eq_bind, Option.bind_some, skipSpace_gap hbehind, if_pos]

/-- A text is a document with at most one value. -/
theorem Document.unique {v w : Json} {s : Text} (hv : Document v s) (hw : Document w s) : v = w := by
  have h := (read?_of_document hv).symm.trans (read?_of_document hw)
  exact Option.some.inj h

end TypeReport.Json
