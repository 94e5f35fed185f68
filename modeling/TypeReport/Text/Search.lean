import TypeReport.Text.Basic

/-! # Looking for one text inside another

`after? s w` is what follows `w` at the start of `s`, and `around? s w` is what
stands before and after the first occurrence of `w` in `s`.  Both put the text
together again: `w ++ r = s` in the first case (`eq_append_of_after?`) and
`a ++ w ++ b = s` in the second (`eq_append_of_around?`), where no other such `a`
is shorter (`length_le_of_around?`).  There is no `a` and `b` exactly when `w` does
not occur in `s` (`around?_eq_none_iff`).  The empty text occurs at the start of
every text. -/

namespace TypeReport.Text

/-- What follows `w` at the start of `s`, if `s` starts with `w`. -/
def after? : Text → Text → Option Text
  | s, [] => some s
  | [], _ :: _ => none
  | c :: s, d :: w => if c = d then after? s w else none

/-- Whether `s` starts with `w`. -/
def startsWith (s w : Text) : Bool := (s.after? w).isSome

/-- What stands before and after the first occurrence of `w` in `s`, if there is one. -/
def around? : Text → Text → Option (Text × Text)
  | [], w => (after? [] w).map ([], ·)
  | c :: s, w =>
      match after? (c :: s) w with
      | some r => some ([], r)
      | none => (around? s w).map fun (a, b) => (c :: a, b)

/-- Whether `w` occurs in `s`. -/
def includes (s w : Text) : Bool := (s.around? w).isSome

/-- Whether one of the phrases occurs in `s`. -/
def includesAny (s : Text) (phrases : List Text) : Bool := phrases.any s.includes

theorem after?_eq_some_iff {s w r : Text} : after? s w = some r ↔ s = w ++ r := by
  fun_induction after? s w with
  | case1 => simp [eq_comm]
  | case2 => simp
  | case3 c s w ih => simp [ih]
  | case4 c s d w h => simp [h]

theorem startsWith_iff {s w : Text} : startsWith s w = true ↔ w <+: s := by
  rw [startsWith, Option.isSome_iff_exists]
  exact ⟨fun ⟨r, h⟩ => ⟨r, (after?_eq_some_iff.1 h).symm⟩,
    fun ⟨r, h⟩ => ⟨r, after?_eq_some_iff.2 h.symm⟩⟩

theorem eq_append_of_after? {s w r : Text} (h : after? s w = some r) : w ++ r = s :=
  (after?_eq_some_iff.1 h).symm

theorem eq_append_of_around? {s w a b : Text} (h : around? s w = some (a, b)) :
    a ++ w ++ b = s := by
  induction s generalizing a b with
  | nil =>
      simp only [around?, Option.map_eq_some_iff, Prod.mk.injEq] at h
      obtain ⟨r, hr, rfl, rfl⟩ := h
      simpa using eq_append_of_after? hr
  | cons c s ih =>
      unfold around? at h
      split at h
      case h_1 r hr =>
        simp only [Option.some.injEq, Prod.mk.injEq] at h
        obtain ⟨rfl, rfl⟩ := h
        simpa using eq_append_of_after? hr
      case h_2 =>
        simp only [Option.map_eq_some_iff, Prod.mk.injEq] at h
        obtain ⟨⟨a', b'⟩, hr, rfl, rfl⟩ := h
        simpa using ih hr

theorem after?_append (w r : Text) : after? (w ++ r) w = some r := after?_eq_some_iff.2 rfl

theorem length_le_of_around? {s w a b a' b' : Text} (h : around? s w = some (a, b))
    (h' : a' ++ w ++ b' = s) : a.length ≤ a'.length := by
  induction s generalizing a b a' with
  | nil =>
      simp only [around?, Option.map_eq_some_iff, Prod.mk.injEq] at h
      obtain ⟨r, -, rfl, rfl⟩ := h
      exact Nat.zero_le _
  | cons c s ih =>
      unfold around? at h
      split at h
      case h_1 r hr =>
        simp only [Option.some.injEq, Prod.mk.injEq] at h
        obtain ⟨rfl, rfl⟩ := h
        exact Nat.zero_le _
      case h_2 hr =>
        simp only [Option.map_eq_some_iff, Prod.mk.injEq] at h
        obtain ⟨⟨a₁, b₁⟩, h₁, rfl, rfl⟩ := h
        cases a' with
        | nil =>
            rw [← h', List.nil_append, after?_append] at hr
            cases hr
        | cons d a' =>
            obtain ⟨-, h₂⟩ := List.cons.inj h'
            exact Nat.succ_le_succ (ih h₁ h₂)

theorem around?_eq_none_iff {s w : Text} : around? s w = none ↔ ¬ w <:+: s := by
  constructor
  · rintro h ⟨a, b, rfl⟩
    induction a with
    | nil =>
        rw [List.nil_append] at h
        cases hs : w ++ b with
        | nil =>
            obtain ⟨rfl, rfl⟩ := List.append_eq_nil_iff.1 hs
            simp [around?, after?] at h
        | cons c s =>
            have := after?_append w b
            rw [hs] at h this
            unfold around? at h
            rw [this] at h
            cases h
    | cons c a ih =>
        simp only [List.cons_append] at h
        unfold around? at h
        split at h
        · cases h
        · exact ih (Option.map_eq_none_iff.1 h)
  · intro h
    cases hs : around? s w with
    | none => rfl
    | some p => exact absurd ⟨p.1, p.2, eq_append_of_around? hs⟩ h

theorem includes_iff {s w : Text} : includes s w = true ↔ w <:+: s := by
  rw [includes, Option.isSome_iff_ne_none, ne_eq, around?_eq_none_iff, Classical.not_not]

end TypeReport.Text
