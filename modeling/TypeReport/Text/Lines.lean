import TypeReport.Text.Basic

/-! # Lines

A line ends with a line feed, or where the text ends.  `rawLines` cuts a text
after each of its line feeds and loses nothing (`flatten_rawLines`), and a text
that starts on a fresh line is cut on its own (`rawLines_append`).  `lines` are the
same lines without their ends, where a carriage return directly before the line
feed belongs to the end and any other one does not. -/

namespace TypeReport.Text

/-- The lines of a text with their ends. -/
def rawLines : Text → List Text
  | [] => []
  | c :: s =>
      if c = '\n' then [c] :: rawLines s
      else
        match rawLines s with
        | [] => [[c]]
        | l :: ls => (c :: l) :: ls

/-- A line without its end. -/
def chomp : Text → Text
  | [] => []
  | ['\n'] => []
  | ['\r', '\n'] => []
  | c :: s => c :: chomp s

/-- The lines of a text without their ends. -/
def lines (s : Text) : List Text := s.rawLines.map chomp

/-- Texts put together with a line feed between each two. -/
def joinLines (ls : List Text) : Text := ['\n'].intercalate ls

@[simp] theorem flatten_rawLines (s : Text) : s.rawLines.flatten = s := by
  induction s with
  | nil => rfl
  | cons c s ih =>
      unfold rawLines
      split
      · simp [ih]
      · split
        · next h => simp_all
        · next l ls h => simp_all

/-- Whether a text that follows starts on a fresh line. -/
def EndsLine (s : Text) : Prop := s = [] ∨ s.getLast? = some '\n'

theorem rawLines_eq_nil_iff {s : Text} : s.rawLines = [] ↔ s = [] := by
  cases s with
  | nil => simp [rawLines]
  | cons c s =>
      unfold rawLines
      split
      · simp
      · split <;> simp

/-- A text that starts on a fresh line is cut on its own. -/
theorem rawLines_append {s : Text} (h : EndsLine s) (t : Text) :
    rawLines (s ++ t) = rawLines s ++ rawLines t := by
  induction s with
  | nil => rfl
  | cons c s ih =>
      cases s with
      | nil =>
          have hc : c = '\n' := by simpa [EndsLine] using h
          simp [rawLines, hc]
      | cons d s =>
          have ht : EndsLine (d :: s) := by
            refine Or.inr ?_
            simpa [EndsLine, List.getLast?_cons_cons] using h
          have ih := ih ht
          by_cases hc : c = '\n'
          · simp only [List.cons_append, rawLines, hc, if_true] at ih ⊢
            rw [ih]
          · have hne : rawLines (d :: s) ≠ [] := by simp [rawLines_eq_nil_iff]
            obtain ⟨l, ls, hl⟩ := List.exists_cons_of_ne_nil hne
            have step (u : Text) : rawLines (c :: u) =
                match rawLines u with
                | [] => [[c]]
                | l :: ls => (c :: l) :: ls := by rw [rawLines, if_neg hc]
            rw [List.cons_append, step, step, ih, hl]
            rfl

example : lines "a\r\nb\n\rc".toList = ["a".toList, "b".toList, "\rc".toList] := by decide

example : lines "\n\n".toList = [[], []] ∧ lines [] = [] := by decide

end TypeReport.Text
