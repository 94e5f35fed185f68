import TypeReport.Span

/-! # Backtraces

The type checker explains a mismatch level by level, and each level names two
types or declarations that failed to agree.  A backtrace holds these levels as
frames, the root first.  A frame marks the places where the binding that the
frame before it is about appears again. -/

namespace TypeReport

/-- The two sides of a mismatch: what the implementation has, and what the interface, or the context
of an expression, expects. -/
structure Sides where
  implementation : Text
  interface : Text
deriving DecidableEq

/-- A mismatch, with the places where the binding of the frame before it appears in its sides. -/
structure Frame extends Sides where
  implementationMark : Option Span
  interfaceMark : Option Span
deriving DecidableEq

/-- The levels of a mismatch, the root first.  A level that does not name two sides is no frame but
a notice, of which one is kept. -/
structure Backtrace where
  frames : List Frame
  notice : Option Text
deriving DecidableEq

/-- Whether a backtrace holds neither a frame nor a notice. -/
def Backtrace.isEmpty (b : Backtrace) : Bool := b.frames.isEmpty && b.notice.isNone

end TypeReport
