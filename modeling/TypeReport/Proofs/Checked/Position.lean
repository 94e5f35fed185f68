import TypeReport.Position.LineTable
import TypeReport.Proofs.Checked.Operations
import TypeReport.Proofs.Text.LineFeeds

/-! # Checked positions

The greatest character boundary that is not beyond an offset is found by stepping back
from the offset (`floor`), the line of an offset by counting the line feeds among the bytes
before it (`lineOfOffset`), and its column by cutting the text behind the last of them
(`position`). -/

namespace TypeReport

namespace Checked

/-! ### Boundaries -/

/-- The first boundary of a text that is met on the way back from an offset. -/
def stepBack (s : Text) : Nat → Checked Nat
  | 0 => if (s.splitAt? 0).isSome then some 0 else none
  | n + 1 => if (s.splitAt? (n + 1)).isSome then some (n + 1) else stepBack s n

def floor (s : Text) (n : Nat) : Checked Nat := stepBack s (min n s.size)

theorem isSome_splitAt?_iff {s : Text} {n : Nat} :
    (s.splitAt? n).isSome = true ↔ s.floor n = n := by
  unfold Text.splitAt?
  split
  · next h => exact iff_of_true rfl h
  · next h => exact iff_of_false (by simp) h

theorem stepBack_eq (s : Text) (n : Nat) : stepBack s n = some (s.floor n) := by
  induction n with
  | zero =>
      have hzero : s.floor 0 = 0 := Nat.le_zero.1 (Text.floor_le s 0)
      rw [stepBack, if_pos (isSome_splitAt?_iff.2 hzero), hzero]
  | succ n ih =>
      rw [stepBack]
      split
      case isTrue h => rw [isSome_splitAt?_iff.1 h]
      case isFalse h => rw [ih, Text.floor_succ (mt isSome_splitAt?_iff.2 h)]

theorem floor_eq (s : Text) (n : Nat) : floor s n = some (s.floor n) := by
  rw [floor, stepBack_eq, Text.floor, Text.floor, Text.upTo_min_size]

/-! ### Lines and columns -/

def lineOfOffset (s : Text) (n : Nat) : Checked Nat := do
  let before ← take s.bytes (min n s.bytes.length)
  return before.count Text.lfByte + 1

theorem lineOfOffset_eq (s : Text) (n : Nat) :
    lineOfOffset s n = some (Position.lineOfOffset s n) := by
  rw [lineOfOffset, take_eq (Nat.min_le_right _ _), Position.lineOfOffset, Text.length_bytes]
  simp only [Option.bind_eq_bind, Option.bind_some, Text.count_take_bytes, Text.upTo_min_size]
  rfl

def position (s : Text) (n : Nat) : Checked Position := do
  let before ← upTo s (← floor s n)
  let line ← after before before.lastLineStart
  return ⟨before.count '\n' + 1, line.length + 1⟩

theorem position_eq (s : Text) (n : Nat) : position s n = some (Position.ofOffset s n) := by
  have hbefore : upTo s (s.floor n) = some (s.upTo n) := by
    have h := upTo_append (s.upTo n) (s.after n)
    rwa [Text.upTo_append_after] at h
  obtain ⟨a, b, hs, hstart, hlength⟩ := Text.exists_lastLine (s.upTo n)
  have hline : after (s.upTo n) (s.upTo n).lastLineStart = some b := by
    rw [← hstart]
    exact (congrArg (after · a.size) hs).trans (after_append a b)
  simp only [position, floor_eq, Option.bind_eq_bind, Option.bind_some, hbefore, hline]
  rw [Position.ofOffset, Position.lineOfOffset, hlength]
  rfl

def positions (s : Text) (r : Span) : Checked (Position × Position) := do
  return (← position s r.start, ← position s r.stop)

theorem positions_eq (s : Text) (r : Span) : positions s r = some (Position.ofSpan s r) := by
  rw [positions, position_eq, position_eq]
  rfl

/-! ### Line tables -/

/-- The position of an offset, read off a line table. -/
def tablePosition (t : LineTable) (s : Text) (n : Nat) : Checked Position := do
  let start := t.starts.getD (← sub (t.line n) 1) 0
  let stop := max (← floor s n) start
  return ⟨t.line n, ((Span.mk start stop).slice? s).elim 0 List.length + 1⟩

theorem tablePosition_eq (t : LineTable) (s : Text) (n : Nat) :
    tablePosition t s n = some (t.position s n) := by
  have hline : 1 ≤ t.line n := Nat.le_max_left 1 _
  rw [tablePosition, sub_eq hline, floor_eq]
  rfl

end Checked
end TypeReport
