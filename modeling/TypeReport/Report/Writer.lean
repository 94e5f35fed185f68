import TypeReport.Report.Record
import TypeReport.Report.Terminal

/-! # Writers

A writer turns events into text, one after the other.  The terminal needs no
memory.  The JSON writer puts all records into one array, and since a comma stands
before every record but the first, it remembers whether one has been written. -/

namespace TypeReport

/-- What turns events into text: panels for people, or an array of records, `fresh` as long as it
holds none. -/
inductive Writer where
  | terminal (t : Terminal)
  | json (fresh : Bool)

namespace Writer

/-- A record, with a comma before it unless it is the first. -/
def separated (fresh : Bool) (record : Json) : Text :=
  (if fresh then [] else ",\n".toList) ++ Record.print record

/-- What is written for an event, and the writer for the events that follow. -/
def step : Writer → Event → Text × Writer
  | terminal t, e => (t.write e, terminal t)
  | json fresh, .start _ => ("[\n".toList, json fresh)
  | json fresh, .diagnostic index e => (separated fresh (Record.ofDiagnostic index e), json false)
  | json fresh, .skipped s => (separated fresh (Record.ofSkipped s), json false)
  | json fresh, .finish .. => ("\n]\n".toList, json fresh)
  | json fresh, _ => ([], json fresh)

/-- What is written for each of some events. -/
def texts : Writer → List Event → List Text
  | _, [] => []
  | w, e :: es => (w.step e).1 :: texts (w.step e).2 es

/-- The writer that is left after some events. -/
def afterEvents (w : Writer) (es : List Event) : Writer := es.foldl (fun w e => (w.step e).2) w

/-- What is written for some events. -/
def write (w : Writer) (es : List Event) : Text := (w.texts es).flatten

end Writer
end TypeReport
