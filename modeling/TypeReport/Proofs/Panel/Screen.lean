import TypeReport.Panel.Screen
import TypeReport.Proofs.Panel.Paint

/-! # Painted lines on the screen

A terminal shows each piece of a painted line in the ink of the piece, and behind the
piece the paint is off again (`cells_paint`).  So the characters that a line shows in an
ink are those of its pieces in that ink, as long as none is an escape character
(`inked_paint`). -/

namespace TypeReport

/-! ### Cells -/

theorem cells_cons {c : Char} (h : c ≠ '\x1b') (code s : Text) :
    cells code none (c :: s) = ⟨code, c⟩ :: cells code none s := by
  rw [cells.eq_def]
  dsimp only
  split
  case h_1 s => exact if_neg h
  case h_2 => rfl

theorem cells_append {a : Text} (h : '\x1b' ∉ a) (code s : Text) :
    cells code none (a ++ s) = a.map (Cell.mk code) ++ cells code none s := by
  induction a with
  | nil => rfl
  | cons c a ih =>
      rw [List.mem_cons, not_or] at h
      rw [List.cons_append, cells_cons (Ne.symm h.1), ih h.2]
      rfl

theorem cells_parameters {new : Text} (h : 'm' ∉ new) (code read s : Text) :
    cells code (some read) (new ++ 'm' :: s) = cells (read ++ new) none s := by
  induction new generalizing read with
  | nil =>
      rw [List.append_nil]
      rfl
  | cons c new ih =>
      rw [List.mem_cons, not_or] at h
      rw [List.cons_append, cells, if_neg (Ne.symm h.1), ih h.2, List.append_assoc]
      rfl

theorem cells_escape {new : Text} (h : 'm' ∉ new) (code s : Text) :
    cells code none (escape new ++ s) = cells new none s := by
  have hescape : escape new ++ s = '\x1b' :: '[' :: (new ++ 'm' :: s) := by
    simp [escape]
  rw [hescape]
  exact cells_parameters h code [] s

/-! ### Pieces and lines -/

/-- What a terminal shows of a piece. -/
def Piece.cells (p : Piece) : List Cell := p.text.map (Cell.mk p.ink.shownCode)

theorem Piece.cells_paint {p : Piece} (h : '\x1b' ∉ p.text) (s : Text) :
    TypeReport.cells resetCode none (p.paint true ++ s) =
      p.cells ++ TypeReport.cells resetCode none s := by
  have hreset : 'm' ∉ resetCode := by decide
  unfold paint Piece.cells Ink.shownCode
  cases hcode : p.ink.code? with
  | none => exact cells_append h resetCode s
  | some code =>
      by_cases htext : p.text = []
      · simp only [htext]
        rfl
      · have hpainted : (true && decide (p.text ≠ [])) = true := by simpa using htext
        dsimp only
        rw [if_pos hpainted, List.append_assoc, List.append_assoc,
          cells_escape (Ink.m_not_mem_code hcode), cells_append h]
        exact congrArg _ (cells_escape hreset code s)

namespace Line

theorem cells_paint {l : Line} (h : '\x1b' ∉ l.text) (s : Text) :
    cells resetCode none (l.paint true ++ s) =
      l.flatMap Piece.cells ++ cells resetCode none s := by
  induction l with
  | nil => rfl
  | cons p l ih =>
      rw [text_cons, List.mem_append, not_or] at h
      have hpaint : Line.paint true (p :: l) = p.paint true ++ Line.paint true l := rfl
      rw [hpaint, List.append_assoc, Piece.cells_paint h.1, ih h.2, List.flatMap_cons,
        List.append_assoc]

end Line

/-! ### Inks -/

theorem Ink.shownCode_inj {ink ink' : Ink} : ink.shownCode = ink'.shownCode ↔ ink = ink' := by
  cases ink <;> cases ink' <;> decide

theorem Piece.filter_cells (ink : Ink) (p : Piece) :
    (p.cells.filter (·.code = ink.shownCode)).map (·.char) =
      if p.ink = ink then p.text else [] := by
  unfold cells
  rw [List.filter_map, List.map_map]
  split
  case isTrue h =>
    rw [List.filter_eq_self.2 (by simp [h])]
    exact List.map_id _
  case isFalse h =>
    have hcode : p.ink.shownCode ≠ ink.shownCode := fun hcode => h (Ink.shownCode_inj.1 hcode)
    rw [List.filter_eq_nil_iff.2 (by simp [hcode])]
    rfl

namespace Line

/-- The text of the pieces of a line that are in an ink. -/
def textIn (ink : Ink) (l : Line) : Text := text (l.filter (·.ink = ink))

theorem filter_cells (ink : Ink) (l : Line) :
    ((l.flatMap Piece.cells).filter (·.code = ink.shownCode)).map (·.char) = l.textIn ink := by
  induction l with
  | nil => rfl
  | cons p l ih =>
      rw [List.flatMap_cons, List.filter_append, List.map_append, Piece.filter_cells, ih, textIn,
        textIn, List.filter_cons]
      by_cases hp : p.ink = ink
      · simp only [hp, decide_true, if_true, text_cons]
      · simp only [hp, decide_false, if_false]
        rfl

/-- A painted line shows in an ink what it has in that ink. -/
theorem inked_paint {l : Line} (h : '\x1b' ∉ l.text) (ink : Ink) :
    inked ink (l.paint true) = l.textIn ink := by
  have hcells := cells_paint h []
  have hnil : cells resetCode none [] = [] := rfl
  rw [List.append_nil, hnil, List.append_nil] at hcells
  rw [inked, hcells, filter_cells]

end Line
end TypeReport
