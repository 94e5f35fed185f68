import TypeReport.Backtrace.Binding
import TypeReport.Backtrace.Chunk

/-! # Reading backtraces

The compiler prints the root of a mismatch last, so the frames are the chunks in
reverse.  Chunks that tell of a type escaping its scope are no frames; the first
of them is kept as the notice.  When several chunks have no connective, the last
one printed, which is the first one read, is blamed. -/

namespace TypeReport

/-- The frame of a mismatch that follows another. -/
def Frame.following (previous current : Sides) : Frame where
  toSides := current
  implementationMark := Binding.mark? previous.implementation current.implementation
  interfaceMark := Binding.mark? previous.interface current.interface

namespace Backtrace

/-- The frames of a list of mismatches, each linked to the one before it. -/
def link : List Sides → List Frame
  | [] => []
  | root :: rest => ⟨root, none, none⟩ :: List.zipWith Frame.following (root :: rest) rest

/-- Reads the lines of a mismatch. -/
def parse (d : Dialect) (ls : List Text) : Except Failure Backtrace := do
  let chunks := Chunk.split d ls
  let sides ← (chunks.filter (!d.isEscape ·)).reverse.mapM (Chunk.sides d)
  return ⟨link sides, (chunks.find? d.isEscape).map Text.trim⟩

end Backtrace
end TypeReport
