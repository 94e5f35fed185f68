import Mathlib.Data.Prod.Lex
import Mathlib.Order.Bounds.Basic
import TypeReport.Position.Basic
import TypeReport.Proofs.Text.Lines
import TypeReport.Proofs.Text.Offsets

/-! # The order of positions

Positions are ordered by their lines, and on one line by their columns.  The position of an
offset is that of the end of the text before it (`behind`), which moves on with every
character (`behind_lt_append`).  So a greater offset has no smaller position
(`monotone_ofOffset`), and a greater boundary has a greater one (`strictMonoOn_ofOffset`).
A position says how many lines to go past, and then how many characters of the next line
(`LeadsTo`).  That way leads to a boundary just if the boundary has this position
(`leadsTo_iff`), hence from the position of any offset to the greatest boundary that is not
beyond it. -/

namespace TypeReport.Position

open Text

/-! ### The order -/

/-- The line and the column, the line first. -/
def key (p : Position) : Nat ×ₗ Nat := toLex (p.line, p.column)

theorem key_injective : Function.Injective key := by
  intro p q h
  have hpair : (p.line, p.column) = (q.line, q.column) := toLex.injective h
  cases p
  cases q
  cases hpair
  rfl

instance : PartialOrder Position := PartialOrder.lift key key_injective

theorem lt_iff {p q : Position} :
    p < q ↔ p.line < q.line ∨ p.line = q.line ∧ p.column < q.column :=
  Prod.Lex.toLex_lt_toLex

/-! ### The position behind a text -/

/-- The position of the end of a text. -/
def behind (s : Text) : Position :=
  ⟨s.count '\n' + 1, (s.reverse.takeWhile (· ≠ '\n')).length + 1⟩

theorem ofOffset_eq (s : Text) (n : Nat) : ofOffset s n = behind (s.upTo n) := rfl

theorem behind_append {a b : Text} (ha : EndsLine a) (hb : '\n' ∉ b) :
    behind (a ++ b) = ⟨a.count '\n' + 1, b.length + 1⟩ := by
  rw [behind, takeWhile_reverse_append ha hb, List.length_reverse, List.count_append,
    List.count_eq_zero_of_not_mem hb, Nat.add_zero]

/-- What follows a text moves its end on, to another line or on the same line. -/
theorem behind_lt_append (s : Text) {d : Text} (hd : d ≠ []) : behind s < behind (s ++ d) := by
  by_cases hlf : '\n' ∈ d
  · have hcount : 0 < d.count '\n' := List.count_pos_iff.2 hlf
    refine lt_iff.2 (Or.inl ?_)
    simp only [behind, List.count_append]
    omega
  · obtain ⟨a, b, rfl, ha, hb⟩ := exists_endsLine_append s
    have hbd : '\n' ∉ b ++ d := by
      rw [List.mem_append]
      exact not_or.2 ⟨hb, hlf⟩
    have hlength : 0 < d.length := List.length_pos_iff.2 hd
    rw [List.append_assoc, behind_append ha hb, behind_append ha hbd]
    refine lt_iff.2 (Or.inr ⟨rfl, ?_⟩)
    simp only [List.length_append]
    omega

/-! ### Offsets in order -/

theorem monotone_ofOffset (s : Text) : Monotone (ofOffset s) := by
  intro m n h
  obtain ⟨d, hd⟩ := upTo_prefix_upTo s h
  rw [ofOffset_eq, ofOffset_eq, ← hd]
  by_cases hnil : d = []
  · rw [hnil, List.append_nil]
  · exact le_of_lt (behind_lt_append _ hnil)

theorem strictMonoOn_ofOffset (s : Text) : StrictMonoOn (ofOffset s) {n | s.IsBoundary n} := by
  intro m hm n hn h
  obtain ⟨d, hd⟩ := upTo_prefix_upTo s (Nat.le_of_lt h)
  -- With nothing between them, both boundaries would be the size of the same part.
  have hnil : d ≠ [] := by
    rintro rfl
    have hm' : size (s.upTo m) = m := isBoundary_iff.1 hm
    have hn' : size (s.upTo n) = n := isBoundary_iff.1 hn
    rw [List.append_nil] at hd
    rw [← hd, hm'] at hn'
    omega
  rw [ofOffset_eq, ofOffset_eq, ← hd]
  exact behind_lt_append _ hnil

theorem ofOffset_floor (s : Text) (n : Nat) : ofOffset s (s.floor n) = ofOffset s n := by
  have hupTo : s.upTo (s.floor n) = s.upTo n := by
    have hcut := upTo_append (s.upTo n) (s.after n)
    rwa [upTo_append_after] at hcut
  rw [ofOffset_eq, hupTo, ofOffset_eq]

/-! ### The way to a position -/

/-- Whether one comes to an offset of a text by going past as many line feeds as there are lines
before a position, and then past as many characters of the next line as there are columns before
it. -/
def LeadsTo (p : Position) (s : Text) (n : Nat) : Prop :=
  ∃ lines line rest : Text, s = lines ++ line ++ rest ∧
    EndsLine lines ∧ lines.count '\n' = p.line - 1 ∧
    '\n' ∉ line ∧ line.length = p.column - 1 ∧ (lines ++ line).size = n

theorem leadsTo_ofOffset_iff {s : Text} {m n : Nat} :
    (ofOffset s n).LeadsTo s m ↔ s.IsBoundary m ∧ ofOffset s m = ofOffset s n := by
  obtain ⟨a, b, hsplit, ha, hb⟩ := exists_endsLine_append (s.upTo n)
  have hposition : ofOffset s n = ⟨a.count '\n' + 1, b.length + 1⟩ := by
    rw [ofOffset_eq, hsplit, behind_append ha hb]
  rw [hposition]
  constructor
  · rintro ⟨lines, line, rest, rfl, hlines, hfeeds, hline, hlength, rfl⟩
    refine ⟨⟨lines ++ line, rest, rfl, rfl⟩, ?_⟩
    rw [ofOffset_eq, upTo_append, behind_append hlines hline, hfeeds, hlength]
    rfl
  · rintro ⟨hm, hposition'⟩
    obtain ⟨lines, line, hsplit', hlines, hline⟩ := exists_endsLine_append (s.upTo m)
    rw [ofOffset_eq, hsplit', behind_append hlines hline] at hposition'
    have hsize : (s.upTo m).size = m := isBoundary_iff.1 hm
    obtain ⟨hfeeds, hlength⟩ := Position.mk.inj hposition'
    refine ⟨lines, line, s.after m, ?_, hlines, ?_, hline, ?_, ?_⟩
    · rw [← hsplit', upTo_append_after]
    · exact Nat.succ.inj hfeeds
    · exact Nat.succ.inj hlength
    · rw [← hsplit', hsize]

/-- The position of an offset leads to the greatest boundary that is not beyond the offset. -/
theorem leadsTo_iff_isGreatest {s : Text} {m n : Nat} :
    (ofOffset s n).LeadsTo s m ↔ IsGreatest {b | s.IsBoundary b ∧ b ≤ n} m := by
  have hgreatest := isGreatest_floor s n
  rw [leadsTo_ofOffset_iff]
  constructor
  · rintro ⟨hm, hposition⟩
    rw [← ofOffset_floor s n] at hposition
    have heq : m = s.floor n :=
      (strictMonoOn_ofOffset s).injOn hm hgreatest.1.1 hposition
    rwa [heq]
  · intro hm
    rw [hm.unique hgreatest]
    exact ⟨hgreatest.1.1, ofOffset_floor s n⟩

/-- Positions are in the order of the offsets, and those of different boundaries differ.  The
position of an offset is the way to the greatest boundary that is not beyond it, which always lies
within the text.  So a span whose ends are in order does not end before it starts. -/
theorem ofOffset_determines (s : Text) :
    Monotone (ofOffset s) ∧
    StrictMonoOn (ofOffset s) {n | s.IsBoundary n} ∧
    Set.InjOn (ofOffset s) {n | s.IsBoundary n} ∧
    (∀ n m, (ofOffset s n).LeadsTo s m ↔ IsGreatest {b | s.IsBoundary b ∧ b ≤ n} m) ∧
    ∀ r : Span, r.start ≤ r.stop → (ofSpan s r).1 ≤ (ofSpan s r).2 :=
  ⟨monotone_ofOffset s, strictMonoOn_ofOffset s, (strictMonoOn_ofOffset s).injOn,
    fun _ _ => leadsTo_iff_isGreatest, fun _ h => monotone_ofOffset s h⟩

/-- A span may end inside a character of the next line, or behind the text. -/
theorem ofOffset_determines_next_line :
    2 ≤ 4 ∧ (ofSpan "ab\né".toList ⟨2, 4⟩).1 ≤ (ofSpan "ab\né".toList ⟨2, 4⟩).2 ∧
    ofSpan "ab\né".toList ⟨2, 4⟩ = (⟨1, 3⟩, ⟨2, 1⟩) := by
  obtain ⟨-, -, -, -, hspan⟩ := ofOffset_determines "ab\né".toList
  exact ⟨by decide, hspan ⟨2, 4⟩ (by decide), by decide⟩

end TypeReport.Position
