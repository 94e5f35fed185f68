import TypeReport.Span

/-! # Markers

Under the last source line the compiler prints carets.  Their columns count from
the start of the printed line, which begins with the number of the source line and
a bar; this gutter is taken off to land in the source text.  The marker runs from
the first caret to the last, whatever stands between them, and is clamped to the
character boundaries of the source text. -/

namespace TypeReport.Marker

/-- Width of what the compiler prints between the number and the text of a source line. -/
def barSize : Nat := 3

/-- The part of a source line that the carets on some lines mark, where the number of the source
line was printed in `labelSize` bytes. -/
def span? (markerLines : List Text) (labelSize : Nat) (source : Text) : Option Span := do
  let offsets := markerLines.flatMap (Text.offsets '^')
  let first ← offsets.min?
  let last ← offsets.max?
  let gutter := labelSize + barSize
  let start := source.floor (first - gutter)
  return ⟨start, max start (source.floor (last + 1 - gutter))⟩

example : span? ["      ^^ ^".toList] 1 "a b c d".toList = some ⟨2, 6⟩ := by decide

/-- Carets left of the source text mark its start. -/
example : span? ["^".toList] 2 "a".toList = some ⟨0, 0⟩ := by decide

end TypeReport.Marker
