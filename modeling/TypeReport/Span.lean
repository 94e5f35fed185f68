import TypeReport.Text.Basic

/-! # Spans

A span is a half-open range of byte offsets into some text.  Nothing forces the
two ends into order or into the text: a span `fits` a text when they are, and it
can be cut out of the text (`cut?`) when both ends are character boundaries too.
The parts that a cut returns make up the text, and they are the only ones that
start and stop where the span does (`cut?_eq_some_iff`). -/

namespace TypeReport

/-- The byte offsets from `start` up to, but not including, `stop`. -/
structure Span where
  start : Nat
  stop : Nat
deriving DecidableEq, Repr

namespace Span

/-- Number of bytes in a span; a reversed span has none. -/
def length (r : Span) : Nat := r.stop - r.start

def isEmpty (r : Span) : Bool := r.stop ≤ r.start

/-- Whether the ends of a span are in order and lie within a text. -/
def fits (r : Span) (s : Text) : Bool := r.start ≤ r.stop && r.stop ≤ s.size

/-- A span moved by `n` bytes towards the end. -/
def shift (r : Span) (n : Nat) : Span := ⟨r.start + n, r.stop + n⟩

/-- A span measured from offset `n`, which must not lie after its start. -/
def rebase (r : Span) (n : Nat) : Span := ⟨r.start - n, r.stop - n⟩

/-- The bytes common to two spans, unless there are none. -/
def inter? (r t : Span) : Option Span :=
  let start := max r.start t.start
  let stop := min r.stop t.stop
  if start < stop then some ⟨start, stop⟩ else none

/-- The parts of a text before, in and after a span. -/
def cut? (r : Span) (s : Text) : Option (Text × Text × Text) := do
  let (before, rest) ← s.splitAt? r.start
  if r.start ≤ r.stop then
    let (inside, behind) ← rest.splitAt? (r.stop - r.start)
    return (before, inside, behind)
  else
    none

/-- The part of a text that a span covers. -/
def slice? (r : Span) (s : Text) : Option Text := (r.cut? s).map (·.2.1)

theorem append_of_cut? {r : Span} {s a m b : Text} (h : r.cut? s = some (a, m, b)) :
    a ++ m ++ b = s ∧ a.size = r.start ∧ (a ++ m).size = r.stop := by
  simp only [cut?, Option.bind_eq_bind, Option.bind_eq_some_iff] at h
  obtain ⟨⟨a', rest⟩, h₁, h⟩ := h
  split at h
  case isFalse => simp at h
  case isTrue hle =>
    simp only [Option.bind_eq_some_iff] at h
    obtain ⟨⟨m', b'⟩, h₂, h⟩ := h
    simp only [pure, Option.some.injEq, Prod.mk.injEq] at h
    obtain ⟨rfl, rfl, rfl⟩ := h
    obtain ⟨e₁, n₁⟩ := Text.append_of_splitAt? h₁
    obtain ⟨e₂, n₂⟩ := Text.append_of_splitAt? h₂
    refine ⟨by rw [List.append_assoc, e₂, e₁], n₁, ?_⟩
    rw [Text.size_append]; omega

/-- The parts of a cut are those that make up the text and end where the span does. -/
theorem cut?_eq_some_iff {r : Span} {s a m b : Text} :
    r.cut? s = some (a, m, b) ↔ a ++ m ++ b = s ∧ a.size = r.start ∧ (a ++ m).size = r.stop := by
  refine ⟨append_of_cut?, ?_⟩
  rintro ⟨rfl, h₁, h₂⟩
  rw [Text.size_append] at h₂
  have e₁ : Text.splitAt? (a ++ m ++ b) r.start = some (a, m ++ b) :=
    Text.splitAt?_eq_some_iff.2 ⟨by rw [List.append_assoc], h₁⟩
  have e₂ : Text.splitAt? (m ++ b) (r.stop - r.start) = some (m, b) :=
    Text.splitAt?_eq_some_iff.2 ⟨rfl, by omega⟩
  have hle : r.start ≤ r.stop := by omega
  unfold cut?
  rw [e₁]
  simp only [Option.bind_eq_bind, Option.bind_some, hle, if_true]
  rw [e₂]
  rfl

end Span
end TypeReport
