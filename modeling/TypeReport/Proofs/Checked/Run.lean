import TypeReport.Proofs.Checked.Block
import TypeReport.Proofs.Checked.Diagnostic
import TypeReport.Proofs.Checked.Panel
import TypeReport.Run

/-! # No operation fails

A run over a stream splits it, reads its blocks one by one and hands events to a writer.
Put together from checked operations it always has a result, for every dialect and every
style of paths, and so has each of its parts (`no_operation_fails`).  The parts stand there
too because they can be used on their own: a mark is looked for in any two texts, a position
in any text, and an event may carry a diagnostic that was not read from any stream. -/

namespace TypeReport.Checked

/-! ### Runs -/

def parseAll (d : Dialect) (style : PathStyle) (input : Text) :
    Checked (Except Failure (List Diagnostic)) := do
  andThen (← split d input) (readAll (diagnostic d style))

def report (d : Dialect) (style : PathStyle) (b : Block) : Checked Event := do
  match ← diagnostic d style b with
  | .ok e => return .diagnostic b.index e
  | .error e => return .skipped (Run.skip d style b e)

/-- The report of a block, beside its place. -/
def placedReport (d : Dialect) (style : PathStyle) (b : Block) : Checked (Nat × Event) := do
  return (b.index, ← report d style b)

def run (d : Dialect) (style : PathStyle) (policy : Policy) (input : Text) : Checked Run := do
  match ← split d input with
  | .error e => return Run.givenUp e
  | .ok [] => return ⟨[], .ok .noErrors⟩
  | .ok blocks =>
      match policy with
      | .abort => do
          match ← readAll (diagnostic d style) blocks with
          | .error e => return Run.givenUp e
          | .ok es => return Run.reported blocks.length 0 (es.mapIdx Event.diagnostic)
      | .isolate => do
          let reports ← blocks.mapM (placedReport d style)
          return Run.placed blocks.length (reports.countP (Run.isSkip ·.2)) reports

/-- Reads a stream, writes its report, and tells how the run ended. -/
def output (d : Dialect) (style : PathStyle) (policy : Policy) (w : Writer) (input : Text) :
    Checked (Text × Except Failure Outcome) := do
  let run ← run d style policy input
  return (← write w run.events, run.result)

theorem parseAll_eq (d : Dialect) (style : PathStyle) (input : Text) :
    parseAll d style input = some (Diagnostic.parseAll d style input) := by
  rw [parseAll, split_eq]
  exact andThen_eq (readAll_eq (diagnostic_eq d style)) _

theorem report_eq (d : Dialect) (style : PathStyle) (b : Block) :
    report d style b = some (Run.report d style b) := by
  rw [report, diagnostic_eq, Run.report]
  cases Diagnostic.parse d style b with
  | ok e => rfl
  | error e => rfl

theorem placedReport_eq (d : Dialect) (style : PathStyle) (b : Block) :
    placedReport d style b = some (b.index, Run.report d style b) := by
  rw [placedReport, report_eq]
  rfl

theorem run_eq (d : Dialect) (style : PathStyle) (policy : Policy) (input : Text) :
    run d style policy input = some (Run.ofText d style policy input) := by
  rw [run, split_eq, Run.ofText]
  cases Block.split d input with
  | error e => rfl
  | ok blocks =>
      cases blocks with
      | nil => rfl
      | cons b blocks =>
          cases policy with
          | abort =>
              simp only [Option.bind_eq_bind, Option.bind_some, readAll_eq (diagnostic_eq d style)]
              cases (b :: blocks).mapM (Diagnostic.parse d style) with
              | error e => rfl
              | ok es => rfl
          | isolate =>
              have hreports : (b :: blocks).mapM (placedReport d style) =
                  some ((b :: blocks).map fun b => (b.index, Run.report d style b)) :=
                mapM_eq_some_map fun b _ => placedReport_eq d style b
              simp only [Option.bind_eq_bind, Option.bind_some, hreports]
              rfl

theorem output_eq (d : Dialect) (style : PathStyle) (policy : Policy) (w : Writer) (input : Text) :
    output d style policy w input =
      some (w.write (Run.ofText d style policy input).events,
        (Run.ofText d style policy input).result) := by
  rw [output, run_eq]
  simp only [Option.bind_eq_bind, Option.bind_some, write_eq]
  rfl

/-! ### All of it -/

/-- Whether no operation fails in what reads streams, looks for positions and writes reports: for
any text, any offset or span, whether it fits the text or not, any line table, even that of another
text, and any records. -/
structure Total (d : Dialect) (style : PathStyle) : Prop where
  blocks : ∀ input, split d input = some (Block.split d input)
  diagnostics : ∀ b, diagnostic d style b = some (Diagnostic.parse d style b)
  kinds : ∀ errorLine rest, kind d style errorLine rest = some (Kind.parse d style errorLine rest)
  backtraces : ∀ ls, backtrace d ls = some (Backtrace.parse d ls)
  marks : ∀ previous current, mark? previous current = some (Binding.mark? previous current)
  markers : ∀ markerLines labelSize source,
    span? markerLines labelSize source = some (Marker.span? markerLines labelSize source)
  floors : ∀ s n, floor s n = some (s.floor n)
  lines : ∀ s n, lineOfOffset s n = some (Position.lineOfOffset s n)
  offsets : ∀ s n, position s n = some (Position.ofOffset s n)
  spans : ∀ s r, positions s r = some (Position.ofSpan s r)
  tables : ∀ (t : LineTable) s n, tablePosition t s n = some (t.position s n)
  streams : ∀ input, parseAll d style input = some (Diagnostic.parseAll d style input)
  runs : ∀ policy input, run d style policy input = some (Run.ofText d style policy input)
  events : ∀ (w : Writer) es, write w es = some (w.write es)
  reports : ∀ policy (w : Writer) input,
    output d style policy w input =
      some (w.write (Run.ofText d style policy input).events,
        (Run.ofText d style policy input).result)

/-- No operation fails, whatever the phrases of the dialect are. -/
theorem no_operation_fails (d : Dialect) (style : PathStyle) : Total d style where
  blocks := split_eq d
  diagnostics := diagnostic_eq d style
  kinds := kind_eq d style
  backtraces := backtrace_eq d
  marks := mark?_eq
  markers := span?_eq
  floors := floor_eq
  lines := lineOfOffset_eq
  offsets := position_eq
  spans := positions_eq
  tables := tablePosition_eq
  streams := parseAll_eq d style
  runs := run_eq d style
  events := write_eq
  reports := output_eq d style

end TypeReport.Checked
