import TypeReport.Diagnostic.Parser
import TypeReport.Report.Event

/-! # Runs over a stream

A run reads a stream and reports events.  Under the policy `abort` nothing is
reported unless every block can be read; under `isolate` a block that cannot be
read is reported as skipped, and the run goes on with the next. -/

namespace TypeReport

/-- What to do about a block that cannot be read: give up before anything is reported, or skip the
block. -/
inductive Policy where
  | abort
  | isolate
deriving DecidableEq

/-- The end of a run that was not given up: there were no blocks, or each was reported, `failed` of
them as skipped. -/
inductive Outcome where
  | noErrors
  | rendered (total failed : Nat)
deriving DecidableEq

/-- What a run reports, in order, and how it ends. -/
structure Run where
  events : List Event
  result : Except Failure Outcome

namespace Run

/-- A run that is given up without a report. -/
def givenUp (e : Failure) : Run := ⟨[], .error e⟩

/-- A run that takes up each of `total` blocks and reports it, `failed` of them as skipped.  A
report stands beside the place of its block. -/
def placed (total failed : Nat) (reports : List (Nat × Event)) : Run where
  events := .start total :: (reports.flatMap fun (i, e) => [.progress total (i + 1), e]) ++
    [.finish total failed, .flush]
  result := .ok (.rendered total failed)

/-- A run whose reports are placed in the order in which they stand. -/
def reported (total failed : Nat) (reports : List Event) : Run :=
  placed total failed (reports.mapIdx Prod.mk)

def isSkip : Event → Bool
  | .skipped _ => true
  | _ => false

variable (d : Dialect) (style : PathStyle)

/-- The report of a block that cannot be read. -/
def skip (b : Block) (e : Failure) : Skipped where
  index := b.index
  location := b.firstLine?.bind fun line => (Location.read d style line).toOption
  failure := e

def report (b : Block) : Event :=
  match Diagnostic.parse d style b with
  | .ok e => .diagnostic b.index e
  | .error e => .skipped (skip d style b e)

/-- Reads a stream and reports its blocks. -/
def ofText (policy : Policy) (input : Text) : Run :=
  match Block.split d input with
  | .error e => givenUp e
  | .ok [] => ⟨[], .ok .noErrors⟩
  | .ok blocks =>
      match policy with
      | .abort =>
          match blocks.mapM (Diagnostic.parse d style) with
          | .error e => givenUp e
          | .ok es => reported blocks.length 0 (es.mapIdx Event.diagnostic)
      | .isolate =>
          let reports := blocks.map fun b => (b.index, report d style b)
          placed blocks.length (reports.countP (isSkip ·.2)) reports

end Run
end TypeReport
