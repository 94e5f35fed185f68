import Mathlib.Order.Bounds.Basic
import TypeReport.Diagnostic.Plain
import TypeReport.Proofs.Span

/-! # What the carets mark

The marker of a source line runs from the first caret on all marker lines to the last, with
the gutter taken off and the ends rounded down to boundaries (`IsUnder`), so it lies in the
source text (`isIn_of_span?`) and is settled by the offsets of the carets alone
(`span?_congr`).  The carets that are printed under a part of a source line mark just that
part (`span?_print`). -/

namespace TypeReport

namespace Marker

variable {markerLines : List Text} {labelSize : Nat} {source : Text}

/-! ### Carets -/

/-- The offsets of the carets on some lines. -/
def caretOffsets (markerLines : List Text) : Set Nat :=
  {n | ∃ line ∈ markerLines, line.StandsAt '^' n}

theorem mem_flatMap_offsets_iff {n : Nat} :
    n ∈ markerLines.flatMap (Text.offsets '^') ↔ n ∈ caretOffsets markerLines := by
  simp only [List.mem_flatMap, Text.mem_offsets_iff, caretOffsets, Set.mem_ofPred_eq]

theorem min?_offsets_eq_some_iff {lo : Nat} :
    (markerLines.flatMap (Text.offsets '^')).min? = some lo ↔
      IsLeast (caretOffsets markerLines) lo := by
  simp only [List.min?_eq_some_iff, mem_flatMap_offsets_iff, IsLeast, mem_lowerBounds]

theorem max?_offsets_eq_some_iff {hi : Nat} :
    (markerLines.flatMap (Text.offsets '^')).max? = some hi ↔
      IsGreatest (caretOffsets markerLines) hi := by
  simp only [List.max?_eq_some_iff, mem_flatMap_offsets_iff, IsGreatest, mem_upperBounds]

/-! ### Markers -/

/-- Whether a span runs from the first caret to behind the last, taken to the source text and there
to the greatest boundary that is not beyond. -/
structure IsUnder (markerLines : List Text) (labelSize : Nat) (source : Text) (r : Span) :
    Prop where
  start : ∃ lo, IsLeast (caretOffsets markerLines) lo ∧
    IsGreatest {m | source.IsBoundary m ∧ m ≤ lo - (labelSize + 3)} r.start
  stop : ∃ hi, IsGreatest (caretOffsets markerLines) hi ∧
    IsGreatest {m | source.IsBoundary m ∧ m ≤ hi + 1 - (labelSize + 3)} r.stop

theorem span?_eq_some_of_isLeast {lo hi : Nat} (hlo : IsLeast (caretOffsets markerLines) lo)
    (hhi : IsGreatest (caretOffsets markerLines) hi) :
    span? markerLines labelSize source = some ⟨source.floor (lo - (labelSize + barSize)),
      source.floor (hi + 1 - (labelSize + barSize))⟩ := by
  have hle : source.floor (lo - (labelSize + barSize)) ≤
      source.floor (hi + 1 - (labelSize + barSize)) := by
    have : lo ≤ hi := hhi.2 hlo.1
    exact Text.floor_mono source (by omega)
  simp only [span?, min?_offsets_eq_some_iff.2 hlo, max?_offsets_eq_some_iff.2 hhi,
    Option.bind_eq_bind, Option.bind_some, Nat.max_eq_right hle]
  rfl

theorem span?_eq_some_iff {r : Span} :
    span? markerLines labelSize source = some r ↔ IsUnder markerLines labelSize source r := by
  constructor
  · intro h
    have hmin := h
    simp only [span?, Option.bind_eq_bind, Option.bind_eq_some_iff] at hmin
    obtain ⟨lo, hlo, hi, hhi, -⟩ := hmin
    rw [min?_offsets_eq_some_iff] at hlo
    rw [max?_offsets_eq_some_iff] at hhi
    rw [span?_eq_some_of_isLeast hlo hhi] at h
    cases h
    exact ⟨⟨lo, hlo, Text.isGreatest_floor _ _⟩, hi, hhi, Text.isGreatest_floor _ _⟩
  · rintro ⟨⟨lo, hlo, hstart⟩, hi, hhi, hstop⟩
    have hstart := hstart.unique (Text.isGreatest_floor source (lo - (labelSize + 3)))
    have hstop := hstop.unique (Text.isGreatest_floor source (hi + 1 - (labelSize + 3)))
    rw [span?_eq_some_of_isLeast hlo hhi, Option.some.injEq]
    exact (congrArg₂ Span.mk hstart hstop).symm

theorem span?_eq_none_iff :
    span? markerLines labelSize source = none ↔ ∀ line ∈ markerLines, '^' ∉ line := by
  constructor
  · intro h line hline hcaret
    obtain ⟨n, hn⟩ := Text.exists_standsAt_iff.2 hcaret
    have hmem : n ∈ markerLines.flatMap (Text.offsets '^') :=
      mem_flatMap_offsets_iff.2 ⟨line, hline, hn⟩
    obtain ⟨lo, hlo⟩ := Option.isSome_iff_exists.1 (List.isSome_min?_of_mem hmem)
    obtain ⟨hi, hhi⟩ := Option.isSome_iff_exists.1 (List.isSome_max?_of_mem hmem)
    rw [span?_eq_some_of_isLeast (min?_offsets_eq_some_iff.1 hlo)
      (max?_offsets_eq_some_iff.1 hhi)] at h
    cases h
  · intro h
    refine Option.eq_none_iff_forall_ne_some.2 fun r hr => ?_
    obtain ⟨⟨lo, ⟨⟨line, hline, hlo⟩, -⟩, -⟩, -⟩ := span?_eq_some_iff.1 hr
    exact h line hline (Text.exists_standsAt_iff.1 ⟨lo, hlo⟩)

theorem span?_congr {markerLines' : List Text}
    (h : caretOffsets markerLines' = caretOffsets markerLines) :
    span? markerLines' labelSize source = span? markerLines labelSize source := by
  refine Option.ext fun r => ?_
  rw [span?_eq_some_iff, span?_eq_some_iff]
  constructor
  · rintro ⟨hstart, hstop⟩
    rw [h] at hstart hstop
    exact ⟨hstart, hstop⟩
  · rintro ⟨hstart, hstop⟩
    rw [← h] at hstart hstop
    exact ⟨hstart, hstop⟩

/-- Whatever the carets say, the marked part lies in the source line. -/
theorem isIn_of_span? {r : Span} (h : span? markerLines labelSize source = some r) :
    r.IsIn source := by
  simp only [span?, Option.bind_eq_bind, Option.bind_eq_some_iff] at h
  obtain ⟨first, -, last, -, h⟩ := h
  cases h
  constructor
  · exact Nat.le_max_left _ _
  · exact Nat.max_le.2 ⟨Text.floor_le_size _ _, Text.floor_le_size _ _⟩
  · exact Text.floor_floor _ _
  · exact Text.floor_max (Text.floor_floor _ _) (Text.floor_floor _ _)

/-! ### Printed markers -/

theorem offsets_print (labelSize : Nat) (r : Span) :
    (print labelSize r).offsets '^' = List.range' (labelSize + barSize + r.start) r.length := by
  have hspaces : '^' ∉ List.replicate (labelSize + barSize + r.start) ' ' := by
    intro h
    cases (List.mem_replicate.1 h).2
  have hsize : Text.size (List.replicate (labelSize + barSize + r.start) ' ') =
      labelSize + barSize + r.start := by
    rw [Text.size_replicate]
    exact Nat.mul_one _
  rw [Text.offsets, print, Text.offsetsFrom_append, Text.offsetsFrom_eq_nil hspaces, hsize,
    Text.offsetsFrom_replicate rfl, List.nil_append, Nat.zero_add]

theorem mem_caretOffsets_print {r : Span} {n : Nat} : n ∈ caretOffsets [print labelSize r] ↔
    labelSize + barSize + r.start ≤ n ∧ n < labelSize + barSize + r.start + r.length := by
  rw [← mem_flatMap_offsets_iff, List.flatMap_singleton, offsets_print, List.mem_range'_1]

theorem span?_print {r : Span} (hne : r.start < r.stop) (hslice : (r.slice? source).isSome = true)
    (labelSize : Nat) : span? [print labelSize r] labelSize source = some r := by
  have hisIn := Span.isIn_iff_isSome_slice?.2 hslice
  have hlength : r.start + r.length = r.stop := Nat.add_sub_cancel' (Nat.le_of_lt hne)
  have hlo : IsLeast (caretOffsets [print labelSize r]) (labelSize + barSize + r.start) := by
    refine ⟨mem_caretOffsets_print.2 ?_, fun n hn => (mem_caretOffsets_print.1 hn).1⟩
    omega
  have hhi : IsGreatest (caretOffsets [print labelSize r]) (labelSize + barSize + r.stop - 1) := by
    refine ⟨mem_caretOffsets_print.2 ?_, fun n hn => ?_⟩
    · omega
    · have := (mem_caretOffsets_print.1 hn).2
      omega
  -- With the gutter taken off, the carets stand at the ends of the span, which are boundaries.
  have hstart : labelSize + barSize + r.start - (labelSize + barSize) = r.start := by omega
  have hstop : labelSize + barSize + r.stop - 1 + 1 - (labelSize + barSize) = r.stop := by omega
  rw [span?_eq_some_of_isLeast hlo hhi, hstart, hstop, hisIn.start, hisIn.stop]

end Marker
end TypeReport
