import TypeReport.Position.LineTable
import TypeReport.Proofs.Rows
import TypeReport.Proofs.Text.Printed

/-! # What a line table holds

The line table of a text holds the offsets at which its rows start (`starts_ofText`), and its
spans are those of the rows (`range?_ofText`). -/

namespace TypeReport.LineTable

open Excerpt

/-- The line table of a text holds the offsets of its rows. -/
theorem starts_ofText (s : Text) (n : Nat) :
    (ofText s).starts.toList = (rowsFrom n 0 (s.splitOn '\n')).map Row.offset := by
  rw [map_offset_rowsFrom (List.splitOn_ne_nil _ s) fun _ => Text.not_mem_of_mem_splitOn,
    Text.joinLines_splitOn]
  rfl

theorem getElem?_starts_ofText (s : Text) (n k : Nat) :
    (ofText s).starts[k]? = (rowsFrom n 0 (s.splitOn '\n'))[k]?.map Row.offset := by
  rw [← Array.getElem?_toList, starts_ofText s n, List.getElem?_map]

theorem lineCount_ofText (s : Text) (n : Nat) :
    (ofText s).lineCount = (rowsFrom n 0 (s.splitOn '\n')).length := by
  rw [lineCount, ← Array.length_toList, starts_ofText s n, List.length_map]

theorem range?_ofText (s : Text) (n k : Nat) :
    (ofText s).range? s (k + 1) = (rowsFrom n 0 (s.splitOn '\n'))[k]?.map Row.span := by
  rw [range?, if_neg (Nat.succ_ne_zero k), Nat.add_sub_cancel, getElem?_starts_ofText s n,
    getElem?_starts_ofText s n]
  cases hrow : (rowsFrom n 0 (s.splitOn '\n'))[k]? with
  | none => rfl
  | some r =>
      have hstop := stop_rowsFrom hrow
      rw [Text.joinLines_splitOn, Nat.zero_add] at hstop
      rw [hstop, Option.map_some, Option.map_some, Option.map_some, Row.span,
        Nat.max_eq_right (Nat.le_add_right _ _)]

end TypeReport.LineTable
