/-! # Runs

A list is cut in front of each item that opens a run.  The items before the first
opening one are the lead, and each run is an opening item with the items that
follow it up to the next opening one.  Nothing is lost or moved
(`lead_append_flatten`), the lead has no opening item (`not_opens_of_mem_lead`),
and a run has exactly one, at its head (`head_of_mem_runs`).  There is no other way
to cut a list like that (`cut_eq`). -/

namespace TypeReport

/-- A list cut in front of its opening items, with what stands before the first of them. -/
structure Runs (α : Type) where
  lead : List α
  runs : List (List α)

namespace Runs

variable {α : Type} (opens : α → Bool)

/-- Cuts a list in front of its opening items. -/
def cut : List α → Runs α
  | [] => ⟨[], []⟩
  | x :: xs =>
      let rest := cut xs
      if opens x then ⟨[], (x :: rest.lead) :: rest.runs⟩ else ⟨x :: rest.lead, rest.runs⟩

@[simp] theorem lead_append_flatten (xs : List α) :
    (cut opens xs).lead ++ (cut opens xs).runs.flatten = xs := by
  induction xs with
  | nil => rfl
  | cons x xs ih =>
      unfold cut
      split
      · simpa using ih
      · simpa using ih

theorem not_opens_of_mem_lead {xs : List α} {x : α} (h : x ∈ (cut opens xs).lead) :
    opens x = false := by
  induction xs with
  | nil => simp [cut] at h
  | cons y ys ih =>
      unfold cut at h
      split at h
      case isTrue => simp at h
      case isFalse hy =>
        rcases List.mem_cons.1 h with rfl | h
        · simpa using hy
        · exact ih h

theorem head_of_mem_runs {xs : List α} {run : List α} (h : run ∈ (cut opens xs).runs) :
    ∃ x rest, run = x :: rest ∧ opens x = true ∧ ∀ y ∈ rest, opens y = false := by
  induction xs with
  | nil => simp [cut] at h
  | cons x xs ih =>
      unfold cut at h
      split at h
      case isFalse => exact ih h
      case isTrue hx =>
        rcases List.mem_cons.1 h with rfl | h
        · exact ⟨x, _, rfl, hx, fun y hy => not_opens_of_mem_lead opens hy⟩
        · exact ih h

theorem cut_run {run xs : List α} (h : ∀ y ∈ run, opens y = false) :
    cut opens (run ++ xs) = ⟨run ++ (cut opens xs).lead, (cut opens xs).runs⟩ := by
  induction run with
  | nil => rfl
  | cons y ys ih =>
      rw [List.forall_mem_cons] at h
      simp only [List.cons_append, cut, h.1, ih h.2]
      rfl

/-- A list that is put together from a lead and runs is cut into these. -/
theorem cut_eq {lead : List α} {runs : List (List α)} (hl : ∀ y ∈ lead, opens y = false)
    (hr : ∀ run ∈ runs, ∃ x rest, run = x :: rest ∧ opens x = true ∧ ∀ y ∈ rest, opens y = false) :
    cut opens (lead ++ runs.flatten) = ⟨lead, runs⟩ := by
  rw [cut_run opens hl]
  suffices h : cut opens runs.flatten = ⟨[], runs⟩ by rw [h, List.append_nil]
  induction runs with
  | nil => rfl
  | cons run runs ih =>
      rw [List.forall_mem_cons] at hr
      obtain ⟨⟨x, rest, rfl, hx, hrest⟩, hr⟩ := hr
      simp only [List.flatten_cons, List.cons_append, cut, cut_run opens hrest, ih hr, hx]
      simp

end Runs
end TypeReport
