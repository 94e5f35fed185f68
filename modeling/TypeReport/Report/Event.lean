import TypeReport.Diagnostic.Basic
import TypeReport.Failure

/-! # Events

While a stream is read, its diagnostics and the blocks that had to be skipped are
reported one after the other.  The events of a run are what a writer gets to see
of it. -/

namespace TypeReport

/-- A block that was skipped because it cannot be read, with its place in the stream, counted from
zero, and with its location if that much can be read. -/
structure Skipped where
  index : Nat
  location : Option Location
  failure : Failure
deriving DecidableEq

/-- Something that happens during a run.  The progress when a block is taken up counts that block
among the completed. -/
inductive Event where
  | start (total : Nat)
  | progress (total completed : Nat)
  | diagnostic (index : Nat) (e : Diagnostic)
  | skipped (s : Skipped)
  | finish (total failed : Nat)
  | flush
deriving DecidableEq

end TypeReport
