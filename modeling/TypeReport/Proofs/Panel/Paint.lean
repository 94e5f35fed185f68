import TypeReport.Panel.Line

/-! # Paint comes off

The escape sequence of an ink ends at its only `m`, so it is taken off again as a whole
(`unpaint_escape`), and so is the one behind a painted piece.  What is left of painted
lines that hold no escape character are their texts (`unpaint_lines`). -/

namespace TypeReport

/-! ### Escape sequences -/

theorem unpaint_parameters {code : Text} (h : 'm' ∉ code) (s : Text) :
    unpaint true (code ++ 'm' :: s) = unpaint false s := by
  induction code with
  | nil => rfl
  | cons c code ih =>
      rw [List.mem_cons, not_or] at h
      have hc : decide (c ≠ 'm') = true := decide_eq_true (Ne.symm h.1)
      rw [List.cons_append, unpaint, if_pos rfl, hc, ih h.2]

theorem unpaint_escape {code : Text} (h : 'm' ∉ code) (s : Text) :
    unpaint false (escape code ++ s) = unpaint false s := by
  have hescape : escape code ++ s = '\x1b' :: '[' :: (code ++ 'm' :: s) := by
    simp [escape]
  rw [hescape, unpaint, if_neg Bool.false_ne_true, if_pos ⟨rfl, rfl⟩, unpaint, if_pos rfl]
  exact unpaint_parameters h s

theorem unpaint_append {a : Text} (h : '\x1b' ∉ a) (s : Text) :
    unpaint false (a ++ s) = a ++ unpaint false s := by
  induction a with
  | nil => rfl
  | cons c a ih =>
      rw [List.mem_cons, not_or] at h
      have hc : ¬ (c = '\x1b' ∧ (a ++ s).head? = some '[') := fun hc => h.1 hc.1.symm
      rw [List.cons_append, unpaint, if_neg Bool.false_ne_true, if_neg hc, ih h.2]
      rfl

theorem Ink.m_not_mem_code {ink : Ink} {code : Text} (h : ink.code? = some code) :
    'm' ∉ code := by
  cases ink <;> cases h <;> decide

/-! ### Pieces and lines -/

theorem Piece.unpaint_paint {p : Piece} (h : '\x1b' ∉ p.text) (s : Text) :
    unpaint false (p.paint true ++ s) = p.text ++ unpaint false s := by
  have hreset : 'm' ∉ ['0'] := by decide
  unfold paint
  split
  case h_1 code hcode =>
    split
    case isTrue =>
      rw [List.append_assoc, List.append_assoc, unpaint_escape (Ink.m_not_mem_code hcode),
        unpaint_append h, unpaint_escape hreset]
    case isFalse => exact unpaint_append h s
  case h_2 => exact unpaint_append h s

namespace Line

theorem text_append (l m : Line) : (l ++ m).text = l.text ++ m.text := List.flatMap_append

theorem text_cons (p : Piece) (l : Line) : Line.text (p :: l) = p.text ++ l.text := rfl

theorem text_plain (s : Text) : (plain s).text = s := List.append_nil s

theorem unpaint_paint {l : Line} (h : '\x1b' ∉ l.text) (s : Text) :
    unpaint false (l.paint true ++ s) = l.text ++ unpaint false s := by
  induction l with
  | nil => rfl
  | cons p l ih =>
      rw [text_cons, List.mem_append, not_or] at h
      have hpaint : Line.paint true (p :: l) = p.paint true ++ Line.paint true l := rfl
      rw [hpaint, List.append_assoc, Piece.unpaint_paint h.1, ih h.2, text_cons, List.append_assoc]

/-- Painted lines without their paint are the texts of the lines. -/
theorem unpaint_lines {ls : List Line} (h : ∀ l ∈ ls, '\x1b' ∉ l.text) (s : Text) :
    unpaint false (ls.flatMap (fun l => l.paint true ++ ['\n']) ++ s) =
      ls.flatMap (fun l => l.text ++ ['\n']) ++ unpaint false s := by
  have hfeed : '\x1b' ∉ ['\n'] := by decide
  induction ls with
  | nil => rfl
  | cons l ls ih =>
      rw [List.forall_mem_cons] at h
      simp only [List.flatMap_cons, List.append_assoc]
      rw [unpaint_paint h.1, unpaint_append hfeed, ih h.2]

end Line
end TypeReport
