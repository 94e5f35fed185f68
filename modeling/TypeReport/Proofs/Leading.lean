import Mathlib.Data.List.TakeWhile

/-! # Leading items

Lists are cut where an item without some property comes first.  When all items in front have
the property, and what follows starts with an item without it or is empty, the cut is
between the two (`takeWhile_append_eq`, `dropWhile_append_eq`).  A list can be cut behind the
last item without it, too (`exists_trailing`). -/

namespace TypeReport

variable {α : Type} {p : α → Bool} {as bs : List α}

theorem takeWhile_append_eq (has : ∀ a ∈ as, p a = true) (hbs : ∀ b ∈ bs.head?, p b = false) :
    (as ++ bs).takeWhile p = as := by
  rw [List.takeWhile_append_of_pos has]
  cases bs with
  | nil => exact List.append_nil as
  | cons b bs =>
      have hb : p b = false := hbs b rfl
      rw [List.takeWhile_cons_of_neg (by simp [hb]), List.append_nil]

theorem dropWhile_append_eq (has : ∀ a ∈ as, p a = true) (hbs : ∀ b ∈ bs.head?, p b = false) :
    (as ++ bs).dropWhile p = bs := by
  rw [List.dropWhile_append_of_pos has]
  cases bs with
  | nil => rfl
  | cons b bs =>
      have hb : p b = false := hbs b rfl
      rw [List.dropWhile_cons_of_neg (by simp [hb])]

variable {b : α}

theorem takeWhile_append_cons (has : ∀ a ∈ as, p a = true) (hb : p b = false) :
    (as ++ b :: bs).takeWhile p = as :=
  takeWhile_append_eq has (by simpa using hb)

theorem dropWhile_append_cons (has : ∀ a ∈ as, p a = true) (hb : p b = false) :
    (as ++ b :: bs).dropWhile p = b :: bs :=
  dropWhile_append_eq has (by simpa using hb)

/-- What is left behind the leading items with a property starts with one without it. -/
theorem of_mem_head?_dropWhile {a : α} (h : a ∈ (as.dropWhile p).head?) : p a = false := by
  have hhead := List.head?_dropWhile_not p as
  rw [Option.mem_def.1 h] at hhead
  simpa using hhead

theorem exists_trailing (p : α → Bool) (as : List α) :
    ∃ before run, as = before ++ run ∧ (∀ a ∈ run, p a = true) ∧
      ∀ a ∈ before.getLast?, p a = false := by
  refine ⟨(as.reverse.dropWhile p).reverse, (as.reverse.takeWhile p).reverse, ?_, ?_, ?_⟩
  · rw [← List.reverse_append, List.takeWhile_append_dropWhile, List.reverse_reverse]
  · intro a ha
    exact List.mem_takeWhile_imp (List.mem_reverse.1 ha)
  · intro a ha
    rw [List.getLast?_reverse] at ha
    exact of_mem_head?_dropWhile ha

end TypeReport
