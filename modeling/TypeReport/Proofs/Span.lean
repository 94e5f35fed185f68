import Mathlib.Data.List.Infix
import TypeReport.Proofs.Text.Offsets
import TypeReport.Span

/-! # Spans that lie in a text

A span lies in a text when its ends are in order, within the text and at character
boundaries (`Span.IsIn`).  These are just the spans that a text can be cut at
(`isIn_iff_exists_cut?`), and so the ones that have a part of the text to show
(`isIn_iff_isSome_slice?`). -/

namespace TypeReport

namespace Span

/-- The common part of two spans runs from the later start to the earlier stop. -/
theorem inter?_eq_some_iff {r t common : Span} : r.inter? t = some common ↔
    max r.start t.start < min r.stop t.stop ∧
      common = ⟨max r.start t.start, min r.stop t.stop⟩ := by
  unfold inter?
  dsimp only
  split
  case isTrue h => simp [h, eq_comm]
  case isFalse h => simp [h]

theorem inter?_eq_none_iff {r t : Span} :
    r.inter? t = none ↔ min r.stop t.stop ≤ max r.start t.start := by
  unfold inter?
  dsimp only
  split
  case isTrue h => exact iff_of_false (by simp) (by omega)
  case isFalse h => exact iff_of_true rfl (by omega)

/-- Whether a span lies in a text. -/
structure IsIn (r : Span) (s : Text) : Prop where
  ordered : r.start ≤ r.stop
  within : r.stop ≤ s.size
  start : s.floor r.start = r.start
  stop : s.floor r.stop = r.stop

variable {r : Span} {s : Text}

theorem IsIn.of_cut? {a m b : Text} (h : r.cut? s = some (a, m, b)) : r.IsIn s := by
  obtain ⟨rfl, hstart, hstop⟩ := append_of_cut? h
  have hsize : (a ++ m).size = a.size + m.size := Text.size_append a m
  constructor
  · omega
  · rw [← hstop, Text.size_append (a ++ m) b]
    omega
  · rw [← hstart, List.append_assoc, Text.floor_append]
  · rw [← hstop, Text.floor_append]

theorem isIn_iff_exists_cut? : r.IsIn s ↔ ∃ a m b, r.cut? s = some (a, m, b) := by
  constructor
  · intro h
    have hstart : (s.upTo r.start).size = r.start := h.start
    have hstop : (s.upTo r.stop).size = r.stop := h.stop
    obtain ⟨m, hm⟩ := Text.upTo_prefix_upTo s h.ordered
    refine ⟨s.upTo r.start, m, s.after r.stop, cut?_eq_some_iff.2 ⟨?_, hstart, ?_⟩⟩
    · rw [hm, Text.upTo_append_after]
    · rw [hm, hstop]
  · rintro ⟨a, m, b, h⟩
    exact IsIn.of_cut? h

/-- The spans that lie in a text are those that cover a part of it. -/
theorem isIn_iff_isSome_slice? : r.IsIn s ↔ (r.slice? s).isSome = true := by
  rw [isIn_iff_exists_cut?, slice?, Option.isSome_map, Option.isSome_iff_exists]
  constructor
  · rintro ⟨a, m, b, h⟩
    exact ⟨(a, m, b), h⟩
  · rintro ⟨⟨a, m, b⟩, h⟩
    exact ⟨a, m, b, h⟩

end Span
end TypeReport
