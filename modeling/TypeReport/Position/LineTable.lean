import TypeReport.Position.Basic

/-! # Line tables

A line table lists the offsets at which the lines of a text start, in increasing
order, so that the line of an offset is found by bisection instead of a scan.
`rank` bisects a stretch of an array for the entries that are at most some
number; in an increasing array these come first, so their count is the line. -/

namespace TypeReport

/-- The offsets at which the lines of a text start, in order. -/
structure LineTable where
  starts : Array Nat
  increasing : starts.toList.Pairwise (· < ·)

namespace LineTable

/-- The line table of a text: the first line starts at its start, and another one behind each line
feed. -/
def ofText (s : Text) : LineTable where
  starts := (0 :: (s.offsets '\n').map (· + 1)).toArray
  increasing := by
    refine List.pairwise_cons.2 ⟨fun m hm => ?_, ?_⟩
    · obtain ⟨k, -, rfl⟩ := List.mem_map.1 hm
      exact Nat.succ_pos k
    · exact List.pairwise_map.2 ((Text.pairwise_offsets _ _).imp Nat.succ_lt_succ)

def lineCount (t : LineTable) : Nat := t.starts.size

/-- Bisects the entries from `lo` up to `hi`: with every entry before `lo` at most `x` and every
entry from `hi` on beyond it, the result separates the two kinds. -/
def rank (xs : Array Nat) (x lo hi : Nat) : Nat :=
  if lo < hi then
    let mid := lo + (hi - lo) / 2
    if xs.getD mid 0 ≤ x then rank xs x (mid + 1) hi else rank xs x lo mid
  else lo
termination_by hi - lo

def line (t : LineTable) (n : Nat) : Nat := max 1 (rank t.starts n 0 t.starts.size)

/-- The position of an offset of the text `s` that the table was made from. -/
def position (t : LineTable) (s : Text) (n : Nat) : Position :=
  let line := t.line n
  let start := t.starts.getD (line - 1) 0
  let stop := max (s.floor n) start
  ⟨line, ((Span.mk start stop).slice? s).elim 0 List.length + 1⟩

/-- The span of a line of the text `s` that the table was made from, without its line feed. -/
def range? (t : LineTable) (s : Text) (line : Nat) : Option Span :=
  if line = 0 then none
  else
    t.starts[line - 1]?.map fun start =>
      ⟨start, max start (t.starts[line]?.elim s.size (· - 1))⟩

example : (ofText "a\né\n".toList).starts = #[0, 2, 5] := by decide

example : (ofText "a\né\n".toList).position "a\né\n".toList 4 = ⟨2, 2⟩ := by decide +kernel

example : (ofText "a\né\n".toList).range? "a\né\n".toList 2 = some ⟨2, 4⟩ := by decide

end LineTable
end TypeReport
