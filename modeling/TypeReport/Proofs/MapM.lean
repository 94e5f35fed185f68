import Mathlib.Data.List.Forall2
import TypeReport.Failure

/-! # Reading step by step

What is read in steps is read if each step succeeds (`bind_eq_ok_iff`), and the first step
that fails says why it is not (`bind_eq_error_iff`).  Reading the items of a list one by one
either reads all of them, and then each result belongs to the item in its place
(`mapM_eq_ok_iff`), or it stops with the error of the first item that cannot be read
(`mapM_eq_error_iff`).  Items that are read in reverse stop with the last one
(`mapM_reverse_filter_eq_error_iff`).  A loop whose steps cannot fail does what each of
them does (`mapM_eq_some_map`, `mapM_range'_eq_some_map`). -/

namespace TypeReport

/-! ### Lists in step -/

section

variable {α β : Type} {R : α → β → Prop} {xs : List α} {ys : List β}

theorem exists_of_mem_right (h : List.Forall₂ R xs ys) {y : β} (hy : y ∈ ys) : ∃ x ∈ xs, R x y := by
  induction h with
  | nil => cases hy
  | cons hx _ ih =>
      rcases List.mem_cons.1 hy with rfl | hy
      · exact ⟨_, List.mem_cons_self, hx⟩
      · obtain ⟨x, hmem, hxy⟩ := ih hy
        exact ⟨x, List.mem_cons_of_mem _ hmem, hxy⟩

/-- What stands around an item is in step with what stands around the item that belongs to it. -/
theorem exists_of_append_cons {before behind : List α} {x : α}
    (h : List.Forall₂ R (before ++ x :: behind) ys) :
    ∃ before' y behind', ys = before' ++ y :: behind' ∧ R x y ∧ List.Forall₂ R behind behind' := by
  induction before generalizing ys with
  | nil =>
      obtain ⟨y, behind', hxy, hbehind, rfl⟩ := List.forall₂_cons_left_iff.1 h
      exact ⟨[], y, behind', rfl, hxy, hbehind⟩
  | cons z before ih =>
      obtain ⟨w, ys, -, hrest, rfl⟩ := List.forall₂_cons_left_iff.1 h
      obtain ⟨before', y, behind', rfl, hxy, hbehind⟩ := ih hrest
      exact ⟨w :: before', y, behind', rfl, hxy, hbehind⟩

theorem rel_of_getLast? (h : List.Forall₂ R xs ys) {x : α} {y : β} (hx : xs.getLast? = some x)
    (hy : ys.getLast? = some y) : R x y := by
  rw [← List.head?_reverse, List.head?_eq_some_iff] at hx hy
  obtain ⟨xs', hxs⟩ := hx
  obtain ⟨ys', hys⟩ := hy
  have hreverse := List.forall₂_reverse_iff.2 h
  rw [hxs, hys] at hreverse
  exact (List.forall₂_cons.1 hreverse).1

end

/-! ### Reading without failure -/

section

variable {α β : Type} {g : α → β} {xs : List α}

theorem mapM_eq_some_map {f : α → Option β}
    (h : ∀ x ∈ xs, f x = some (g x)) : xs.mapM f = some (xs.map g) := by
  induction xs with
  | nil => rfl
  | cons x xs ih =>
      rw [List.forall_mem_cons] at h
      rw [List.mapM_cons, h.1, ih h.2]
      rfl

/-- A loop over the places of a list does what can be done at each of them. -/
theorem mapM_range'_eq_some_map {f : Nat → Option β} {k : Nat}
    (h : ∀ i x, xs[i]? = some x → f (k + i) = some (g x)) :
    (List.range' k xs.length).mapM f = some (xs.map g) := by
  induction xs generalizing k with
  | nil => rfl
  | cons x xs ih =>
      have hx : f k = some (g x) := h 0 x rfl
      have hxs : (List.range' (k + 1) xs.length).mapM f = some (xs.map g) := by
        apply ih
        intro i y hy
        have hi := h (i + 1) y (by rwa [List.getElem?_cons_succ])
        rwa [Nat.add_right_comm]
      rw [List.length_cons, List.range'_succ, List.mapM_cons, hx, hxs]
      rfl

end

variable {ε α β : Type} {f : α → Except ε β}

/-! ### Steps -/

theorem bind_eq_ok_iff {x : Except ε α} {b : β} :
    x >>= f = .ok b ↔ ∃ a, x = .ok a ∧ f a = .ok b := by
  cases x <;> simp [bind, Except.bind]

theorem bind_eq_error_iff {x : Except ε α} {e : ε} :
    x >>= f = .error e ↔ x = .error e ∨ ∃ a, x = .ok a ∧ f a = .error e := by
  cases x <;> simp [bind, Except.bind]

theorem require_eq_ok_iff {e : ε} {o : Option α} {a : α} : require e o = .ok a ↔ o = some a := by
  cases o <;> simp [require]

theorem require_eq_error_iff {e e' : ε} {o : Option α} :
    require e o = .error e' ↔ o = none ∧ e' = e := by
  cases o <;> simp [require, eq_comm]

/-! ### Items -/

theorem mapM_cons_ok {x : α} {xs : List α} {y : β} (h : f x = .ok y) :
    (x :: xs).mapM f = (xs.mapM f).map (y :: ·) := by
  rw [List.mapM_cons, h]
  cases xs.mapM f with
  | error e => rfl
  | ok ys => rfl

theorem mapM_cons_error {x : α} {xs : List α} {e : ε} (h : f x = .error e) :
    (x :: xs).mapM f = .error e := by
  rw [List.mapM_cons, h]
  rfl

theorem mapM_congr {g : α → Except ε β} {xs : List α} (h : ∀ x ∈ xs, f x = g x) :
    xs.mapM f = xs.mapM g := by
  induction xs with
  | nil => rfl
  | cons x xs ih =>
      rw [List.forall_mem_cons] at h
      rw [List.mapM_cons, List.mapM_cons, h.1, ih h.2]

theorem mapM_eq_ok_iff {xs : List α} {ys : List β} :
    xs.mapM f = .ok ys ↔ List.Forall₂ (fun x y => f x = .ok y) xs ys := by
  induction xs generalizing ys with
  | nil =>
      rw [List.mapM_nil, List.forall₂_nil_left_iff]
      exact ⟨fun h => by cases h; rfl, fun h => by rw [h]; rfl⟩
  | cons x xs ih =>
      cases hx : f x with
      | error e =>
          rw [mapM_cons_error hx]
          refine iff_of_false (by simp) fun h => ?_
          cases h with
          | cons hy _ => rw [hx] at hy; cases hy
      | ok y =>
          rw [mapM_cons_ok hx]
          cases hxs : xs.mapM f with
          | error e =>
              refine iff_of_false (by simp [Except.map]) fun h => ?_
              cases h with
              | cons _ hys => rw [ih.2 hys] at hxs; cases hxs
          | ok ys' =>
              constructor
              · intro h
                cases h
                exact .cons hx (ih.1 hxs)
              · intro h
                cases h with
                | cons hy hys =>
                    rw [hx] at hy
                    rw [ih.2 hys] at hxs
                    cases hy
                    cases hxs
                    rfl

theorem exists_of_mem_of_mapM_eq_ok {xs : List α} {ys : List β} (h : xs.mapM f = .ok ys) {y : β}
    (hy : y ∈ ys) : ∃ x ∈ xs, f x = .ok y :=
  exists_of_mem_right (mapM_eq_ok_iff.1 h) hy

theorem exists_mapM_ok_iff {xs : List α} :
    (∃ ys, xs.mapM f = .ok ys) ↔ ∀ x ∈ xs, ∃ y, f x = .ok y := by
  induction xs with
  | nil => exact iff_of_true ⟨[], rfl⟩ (by simp)
  | cons x xs ih =>
      rw [List.forall_mem_cons, ← ih]
      simp only [mapM_eq_ok_iff, List.forall₂_cons_left_iff]
      constructor
      · rintro ⟨_, y, ys, hy, hys, rfl⟩
        exact ⟨⟨y, hy⟩, ys, hys⟩
      · rintro ⟨⟨y, hy⟩, ys, hys⟩
        exact ⟨_, y, ys, hy, hys, rfl⟩

theorem exists_mapM_error_iff {xs : List α} :
    (∃ e, xs.mapM f = .error e) ↔ ∃ x ∈ xs, ∃ e, f x = .error e := by
  have hfails {γ : Type} (x : Except ε γ) : (∃ e, x = .error e) ↔ ¬∃ a, x = .ok a := by
    cases x <;> simp
  rw [hfails, exists_mapM_ok_iff]
  simp [hfails]

/-- The error of a list is that of its first item that cannot be read. -/
theorem mapM_eq_error_iff {xs : List α} {e : ε} :
    xs.mapM f = .error e ↔ ∃ before x behind, xs = before ++ x :: behind ∧
      (∀ y ∈ before, ∃ b, f y = .ok b) ∧ f x = .error e := by
  induction xs with
  | nil => exact iff_of_false (by simp [pure, Except.pure]) (by simp)
  | cons x xs ih =>
      cases hx : f x with
      | error e' =>
          rw [mapM_cons_error hx]
          constructor
          · intro h
            cases h
            exact ⟨[], x, xs, rfl, by simp, hx⟩
          · rintro ⟨before, y, behind, hxs, hbefore, hy⟩
            cases before with
            | nil =>
                obtain ⟨rfl, -⟩ := List.cons.inj hxs
                rw [hx] at hy
                cases hy
                rfl
            | cons z before =>
                obtain ⟨rfl, -⟩ := List.cons.inj hxs
                obtain ⟨b, hb⟩ := hbefore x (by simp)
                rw [hx] at hb
                cases hb
      | ok y =>
          have hmap : (x :: xs).mapM f = .error e ↔ xs.mapM f = .error e := by
            rw [mapM_cons_ok hx]
            cases xs.mapM f <;> simp [Except.map]
          rw [hmap, ih]
          constructor
          · rintro ⟨before, z, behind, rfl, hbefore, hz⟩
            exact ⟨x :: before, z, behind, rfl, List.forall_mem_cons.2 ⟨⟨y, hx⟩, hbefore⟩, hz⟩
          · rintro ⟨before, z, behind, hxs, hbefore, hz⟩
            cases before with
            | nil =>
                obtain ⟨rfl, -⟩ := List.cons.inj hxs
                rw [hx] at hz
                cases hz
            | cons w before =>
                obtain ⟨rfl, rfl⟩ := List.cons.inj hxs
                exact ⟨before, z, behind, rfl, fun y hy => hbefore y (by simp [hy]), hz⟩

/-- When items are read from the last on, and only those of a kind, the error is that of the last of
them that cannot be read. -/
theorem mapM_reverse_filter_eq_error_iff {p : α → Bool} {xs : List α} {e : ε} :
    (xs.filter p).reverse.mapM f = .error e ↔
      ∃ before x behind, xs = before ++ x :: behind ∧ p x = true ∧ f x = .error e ∧
        ∀ y ∈ behind, p y = true → ∃ b, f y = .ok b := by
  rw [mapM_eq_error_iff]
  constructor
  · rintro ⟨read, x, unread, hxs, hread, hx⟩
    rw [List.reverse_eq_iff, List.reverse_append, List.reverse_cons, List.append_assoc,
      List.singleton_append, List.filter_eq_append_iff] at hxs
    obtain ⟨before, rest, rfl, -, hrest⟩ := hxs
    obtain ⟨skipped, behind, rfl, -, hp, hbehind⟩ := List.filter_eq_cons_iff.1 hrest
    refine ⟨before ++ skipped, x, behind, by simp, hp, hx, fun y hy hpy => ?_⟩
    have hmem : y ∈ behind.filter p := List.mem_filter.2 ⟨hy, hpy⟩
    rw [hbehind, List.mem_reverse] at hmem
    exact hread y hmem
  · rintro ⟨before, x, behind, rfl, hp, hx, hbehind⟩
    refine ⟨(behind.filter p).reverse, x, (before.filter p).reverse, ?_, fun y hy => ?_, hx⟩
    · rw [List.filter_append, List.filter_cons_of_pos hp, List.reverse_append, List.reverse_cons,
        List.append_assoc, List.singleton_append]
    · obtain ⟨hy, hpy⟩ := List.mem_filter.1 (List.mem_reverse.1 hy)
      exact hbehind y hy hpy

end TypeReport
