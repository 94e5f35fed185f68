import TypeReport.Report.Record

/-! # Reading records back

Every record holds all of the diagnostic, or of the skipped block, that it was
made from.  These readers take it out again by the names of the fields. -/

namespace TypeReport

namespace Json

/-- The value of the first field with a name. -/
def get? (key : String) : Json → Option Json
  | object fields => fields.lookup key.toList
  | _ => none

def asNumber? : Json → Option Nat
  | number n => some n
  | _ => none

def asString? : Json → Option Text
  | string s => some s
  | _ => none

/-- The items of an array, read one by one. -/
def asList? {α : Type} (read : Json → Option α) : Json → Option (List α)
  | array items => items.mapM read
  | _ => none

/-- A value that may be absent. -/
def asOptional? {α : Type} (read : Json → Option α) : Json → Option (Option α)
  | null => some none
  | v => (read v).map some

end Json

namespace Record

open Json

def span? (v : Json) : Option Span :=
  return ⟨← asNumber? (← get? "start" v), ← asNumber? (← get? "end" v)⟩

def range? : Json → Option (Nat × Nat)
  | .array [first, last] => return (← asNumber? first, ← asNumber? last)
  | _ => none

def location? (v : Json) : Option Location := do
  return {
    path := ← asString? (← get? "path" v)
    startLine := ← asNumber? (← get? "start_line" v)
    endLine := ← asNumber? (← get? "end_line" v)
    characters := ← asOptional? range? (← get? "characters" v)
    label := ← asOptional? asString? (← get? "label" v) }

def sourceLine? (v : Json) : Option SourceLine :=
  return ⟨← asNumber? (← get? "line" v), ← asString? (← get? "text" v)⟩

def frame? (v : Json) : Option Frame :=
  return {
    implementation := ← asString? (← get? "implementation" v)
    interface := ← asString? (← get? "interface" v)
    implementationMark := ← asOptional? span? (← get? "highlight_impl" v)
    interfaceMark := ← asOptional? span? (← get? "highlight_intf" v) }

def backtrace? (v : Json) : Option Backtrace :=
  return ⟨← asList? frame? (← get? "frames" v),
    ← asOptional? asString? (← get? "additional_error" v)⟩

/-- The kind of an error, from the fields of its record. -/
def kind? (v : Json) : Option Kind := do
  let name ← asString? (← get? "kind" v)
  if name = "plain".toList then
    return .plain (← asString? (← get? "text" v))
  else if name = "expression_mismatch".toList then
    return .expressionMismatch (← asString? (← get? "summary" v))
      (← backtrace? (← get? "backtrace" v))
  else if name = "interface_mismatch".toList then
    return .interfaceMismatch (← asString? (← get? "summary" v))
      (← asOptional? location? (← get? "actual" v))
      (← asOptional? location? (← get? "expected" v))
      (← backtrace? (← get? "backtrace" v))
  else none

/-- The place in the stream and the diagnostic of a record. -/
def diagnostic? (v : Json) : Option (Nat × Diagnostic) := do
  let index ← asNumber? (← get? "index" v)
  let e : Diagnostic := {
    location := ← location? (← get? "location" v)
    snippet := ← asList? sourceLine? (← get? "snippet" v)
    marker := ← asOptional? span? (← get? "marker" v)
    kind := ← kind? v }
  return (index, e)

end Record
end TypeReport
