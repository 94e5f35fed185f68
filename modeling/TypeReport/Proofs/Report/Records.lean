import TypeReport.Report.Record.Reader

/-! # Records read back

The readers of records undo their writers, part by part and for the whole record of
a diagnostic (`diagnostic?_ofDiagnostic`).  The content of an event is what its record
is meant to say, and the records of some events say exactly that, one after the other
(`map_content?_records`).  No name of a field is used twice in one object
(`IsUnambiguous`), so it does not matter which field of a name a reader takes. -/

namespace TypeReport

/-! ### Fields and values -/

namespace Json

/-- Whether no object in a value has two fields with one name. -/
inductive IsUnambiguous : Json → Prop
  | null : IsUnambiguous null
  | bool (b : Bool) : IsUnambiguous (bool b)
  | number (n : Nat) : IsUnambiguous (number n)
  | string (s : Text) : IsUnambiguous (string s)
  | array {items : List Json} (h : ∀ v ∈ items, IsUnambiguous v) : IsUnambiguous (array items)
  | object {fields : List (Text × Json)} (hnames : (fields.map (·.1)).Nodup)
      (h : ∀ v ∈ fields.map (·.2), IsUnambiguous v) : IsUnambiguous (object fields)

theorem asList?_map {α : Type} {read : Json → Option α} {f : α → Json}
    (h : ∀ a, read (f a) = some a) (xs : List α) : asList? read (array (xs.map f)) = some xs := by
  induction xs with
  | nil => rfl
  | cons x xs ih =>
      simp only [asList?, List.map_cons, List.mapM_cons, h] at ih ⊢
      rw [ih]
      rfl

/-- A value that may be absent is read back if the value is, and is never written as nothing. -/
theorem asOptional?_optional {α : Type} {read : Json → Option α} {f : α → Json}
    (h : ∀ a, read (f a) = some a) (hnull : ∀ a, f a ≠ null) (a : Option α) :
    asOptional? read (Record.optional f a) = some a := by
  cases a with
  | none => rfl
  | some a =>
      have hread := h a
      rw [Record.optional]
      unfold asOptional?
      split
      · next heq => exact absurd heq (hnull a)
      · rw [hread]
        rfl

end Json

namespace Record

open Json

/-! ### Parts of records -/

theorem span?_ofSpan (r : Span) : span? (ofSpan r) = some r := rfl

theorem range?_ofRange (r : Nat × Nat) : range? (ofRange r) = some r := rfl

theorem asString?_string (s : Text) : asString? (.string s) = some s := rfl

theorem optionalSpan (r : Option Span) : asOptional? span? (optional ofSpan r) = some r :=
  asOptional?_optional span?_ofSpan (fun _ => by simp [ofSpan]) r

theorem optionalString (s : Option Text) : asOptional? asString? (optional .string s) = some s :=
  asOptional?_optional asString?_string (fun _ => by simp) s

theorem location?_ofLocation (l : Location) : location? (ofLocation l) = some l := by
  have hcharacters : asOptional? range? (optional ofRange l.characters) = some l.characters :=
    asOptional?_optional range?_ofRange (fun _ => by simp [ofRange]) l.characters
  have h₁ : get? "characters" (ofLocation l) = some (optional ofRange l.characters) := rfl
  have h₂ : get? "label" (ofLocation l) = some (optional .string l.label) := rfl
  rw [location?, h₁, h₂]
  simp only [Option.bind_eq_bind, Option.bind_some, hcharacters, optionalString]
  rfl

theorem optionalLocation (l : Option Location) :
    asOptional? location? (optional ofLocation l) = some l :=
  asOptional?_optional location?_ofLocation (fun _ => by simp [ofLocation]) l

theorem sourceLine?_ofSourceLine (l : SourceLine) : sourceLine? (ofSourceLine l) = some l := rfl

theorem frame?_ofFrame (f : Frame) : frame? (ofFrame f) = some f := by
  have h₁ : get? "highlight_impl" (ofFrame f) = some (optional ofSpan f.implementationMark) := rfl
  have h₂ : get? "highlight_intf" (ofFrame f) = some (optional ofSpan f.interfaceMark) := rfl
  rw [frame?, h₁, h₂]
  simp only [Option.bind_eq_bind, Option.bind_some, optionalSpan]
  rfl

theorem backtrace?_ofBacktrace (b : Backtrace) : backtrace? (ofBacktrace b) = some b := by
  have h₁ : get? "frames" (ofBacktrace b) = some (.array (b.frames.map ofFrame)) := rfl
  have h₂ : get? "additional_error" (ofBacktrace b) = some (optional .string b.notice) := rfl
  rw [backtrace?, h₁, h₂]
  simp only [Option.bind_eq_bind, Option.bind_some, asList?_map frame?_ofFrame, optionalString]
  rfl

/-! ### Diagnostics -/

theorem kind?_ofDiagnostic (index : Nat) (e : Diagnostic) :
    kind? (ofDiagnostic index e) = some e.kind := by
  obtain ⟨location, snippet, marker, kind⟩ := e
  cases kind with
  | plain text => rfl
  | expressionMismatch summary b =>
      let record := ofDiagnostic index ⟨location, snippet, marker, .expressionMismatch summary b⟩
      have hkind : get? "kind" record = some (.string "expression_mismatch".toList) := rfl
      have hbacktrace : get? "backtrace" record = some (ofBacktrace b) := rfl
      show kind? record = _
      rw [kind?, hkind, hbacktrace]
      simp only [Option.bind_eq_bind, Option.bind_some, asString?_string, backtrace?_ofBacktrace]
      rfl
  | interfaceMismatch summary actual expected b =>
      let record := ofDiagnostic index
        ⟨location, snippet, marker, .interfaceMismatch summary actual expected b⟩
      have hkind : get? "kind" record = some (.string "interface_mismatch".toList) := rfl
      have hactual : get? "actual" record = some (optional ofLocation actual) := rfl
      have hexpected : get? "expected" record = some (optional ofLocation expected) := rfl
      have hbacktrace : get? "backtrace" record = some (ofBacktrace b) := rfl
      show kind? record = _
      rw [kind?, hkind, hactual, hexpected, hbacktrace]
      simp only [Option.bind_eq_bind, Option.bind_some, asString?_string, optionalLocation,
        backtrace?_ofBacktrace]
      rfl

theorem diagnostic?_ofDiagnostic (index : Nat) (e : Diagnostic) :
    diagnostic? (ofDiagnostic index e) = some (index, e) := by
  have hindex : get? "index" (ofDiagnostic index e) = some (.number index) := rfl
  have hlocation : get? "location" (ofDiagnostic index e) = some (ofLocation e.location) := rfl
  have hsnippet : get? "snippet" (ofDiagnostic index e) =
      some (.array (e.snippet.map ofSourceLine)) := rfl
  have hmarker : get? "marker" (ofDiagnostic index e) = some (optional ofSpan e.marker) := rfl
  rw [diagnostic?, hindex, hlocation, hsnippet, hmarker]
  simp only [Option.bind_eq_bind, Option.bind_some, asNumber?, location?_ofLocation,
    asList?_map sourceLine?_ofSourceLine, optionalSpan, kind?_ofDiagnostic]
  rfl

end Record

/-! ### Contents -/

/-- What a record says of the block at a place of the stream, apart from its layout: a diagnostic
with its title, or why the block was skipped. -/
inductive Content where
  | diagnostic (index : Nat) (title : Text) (e : Diagnostic)
  | skipped (index : Nat) (kind message : Text) (location : Option Location)
deriving DecidableEq

/-- What the record of an event has to say. -/
def Event.content? : Event → Option Content
  | .diagnostic index e => some (.diagnostic index (e.title index) e)
  | .skipped s => some (.skipped s.index s.failure.kind s.failure.message s.location)
  | _ => none

/-- The record of an event. -/
def Event.record? : Event → Option Json
  | .diagnostic index e => some (Record.ofDiagnostic index e)
  | .skipped s => some (Record.ofSkipped s)
  | _ => none

namespace Record

open Json

/-- What a record says. -/
def content? (v : Json) : Option Content := do
  match get? "failed" v with
  | some (.bool true) =>
      return .skipped (← asNumber? (← get? "index" v)) (← asString? (← get? "kind" v))
        (← asString? (← get? "message" v))
        (← asOptional? location? (← get? "location" v))
  | _ =>
      let (index, e) ← diagnostic? v
      return .diagnostic index (← asString? (← get? "title" v)) e

theorem content?_ofDiagnostic (index : Nat) (e : Diagnostic) :
    content? (ofDiagnostic index e) = some (.diagnostic index (e.title index) e) := by
  have hfailed : get? "failed" (ofDiagnostic index e) = none := by
    obtain ⟨location, snippet, marker, kind⟩ := e
    cases kind <;> rfl
  have htitle : get? "title" (ofDiagnostic index e) = some (.string (e.title index)) := rfl
  rw [content?, hfailed, htitle]
  simp only [diagnostic?_ofDiagnostic, Option.bind_eq_bind, Option.bind_some, asString?_string]
  rfl

theorem content?_ofSkipped (s : Skipped) :
    content? (ofSkipped s) =
      some (.skipped s.index s.failure.kind s.failure.message s.location) := by
  have hlocation : get? "location" (ofSkipped s) = some (optional ofLocation s.location) := rfl
  have hfailed : get? "failed" (ofSkipped s) = some (.bool true) := rfl
  rw [content?, hfailed, hlocation]
  simp only [Option.bind_eq_bind, Option.bind_some, optionalLocation]
  rfl

/-- The records of some events say what they have to, one after the other. -/
theorem map_content?_records (es : List Event) :
    (es.filterMap Event.record?).map content? = (es.filterMap Event.content?).map some := by
  induction es with
  | nil => rfl
  | cons e es ih =>
      cases e with
      | diagnostic index e =>
          simp only [List.filterMap_cons, Event.record?, Event.content?, List.map_cons,
            content?_ofDiagnostic, ih]
      | skipped s =>
          simp only [List.filterMap_cons, Event.record?, Event.content?, List.map_cons,
            content?_ofSkipped, ih]
      | _ => exact ih

/-! ### Names of fields -/

theorem isUnambiguous_optional {α : Type} {f : α → Json} (h : ∀ a, (f a).IsUnambiguous)
    (a : Option α) : (optional f a).IsUnambiguous := by
  cases a with
  | none => exact .null
  | some a => exact h a

theorem isUnambiguous_map {α : Type} {f : α → Json} (h : ∀ a, (f a).IsUnambiguous)
    (as : List α) : (Json.array (as.map f)).IsUnambiguous := by
  refine .array fun v hv => ?_
  obtain ⟨a, -, rfl⟩ := List.mem_map.1 hv
  exact h a

theorem isUnambiguous_ofSpan (r : Span) : (ofSpan r).IsUnambiguous := by
  refine .object (show ["start".toList, "end".toList].Nodup by decide) ?_
  simp only [List.map_cons, List.map_nil, List.forall_mem_cons, named]
  exact ⟨.number _, .number _, by simp⟩

theorem isUnambiguous_ofRange (r : Nat × Nat) : (ofRange r).IsUnambiguous := by
  refine .array ?_
  simp only [List.forall_mem_cons]
  exact ⟨.number _, .number _, by simp⟩

theorem isUnambiguous_ofLocation (l : Location) : (ofLocation l).IsUnambiguous := by
  refine .object (show ["path".toList, "start_line".toList, "end_line".toList,
    "characters".toList, "label".toList].Nodup by decide) ?_
  simp only [List.map_cons, List.map_nil, List.forall_mem_cons, named]
  exact ⟨.string _, .number _, .number _, isUnambiguous_optional isUnambiguous_ofRange _,
    isUnambiguous_optional .string _, by simp⟩

theorem isUnambiguous_ofSourceLine (l : SourceLine) : (ofSourceLine l).IsUnambiguous := by
  refine .object (show ["line".toList, "text".toList].Nodup by decide) ?_
  simp only [List.map_cons, List.map_nil, List.forall_mem_cons, named]
  exact ⟨.number _, .string _, by simp⟩

theorem isUnambiguous_ofFrame (f : Frame) : (ofFrame f).IsUnambiguous := by
  refine .object (show ["implementation".toList, "interface".toList, "highlight_impl".toList,
    "highlight_intf".toList].Nodup by decide) ?_
  simp only [List.map_cons, List.map_nil, List.forall_mem_cons, named]
  exact ⟨.string _, .string _, isUnambiguous_optional isUnambiguous_ofSpan _,
    isUnambiguous_optional isUnambiguous_ofSpan _, by simp⟩

theorem isUnambiguous_ofBacktrace (b : Backtrace) : (ofBacktrace b).IsUnambiguous := by
  refine .object (show ["frames".toList, "additional_error".toList].Nodup by decide) ?_
  simp only [List.map_cons, List.map_nil, List.forall_mem_cons, named]
  exact ⟨isUnambiguous_map isUnambiguous_ofFrame _, isUnambiguous_optional .string _, by simp⟩

theorem nodup_names_ofDiagnostic (k : Kind) :
    (["index".toList, "title".toList, "location".toList, "snippet".toList, "marker".toList,
      "kind".toList] ++ (kindFields k).map (·.1)).Nodup := by
  have hall : ∀ names ∈ [["text".toList], ["summary".toList, "backtrace".toList],
      ["summary".toList, "actual".toList, "expected".toList, "backtrace".toList]],
      (["index".toList, "title".toList, "location".toList, "snippet".toList, "marker".toList,
        "kind".toList] ++ names).Nodup := by decide
  refine hall _ ?_
  cases k <;> simp [kindFields, named]

theorem isUnambiguous_kindFields (k : Kind) : ∀ v ∈ (kindFields k).map (·.2), v.IsUnambiguous := by
  cases k with
  | plain text =>
      simp only [kindFields, List.map_cons, List.map_nil, List.forall_mem_cons, named]
      exact ⟨.string _, by simp⟩
  | expressionMismatch summary b =>
      simp only [kindFields, List.map_cons, List.map_nil, List.forall_mem_cons, named]
      exact ⟨.string _, isUnambiguous_ofBacktrace b, by simp⟩
  | interfaceMismatch summary actual expected b =>
      simp only [kindFields, List.map_cons, List.map_nil, List.forall_mem_cons, named]
      exact ⟨.string _, isUnambiguous_optional isUnambiguous_ofLocation _,
        isUnambiguous_optional isUnambiguous_ofLocation _, isUnambiguous_ofBacktrace b, by simp⟩

theorem isUnambiguous_ofDiagnostic (index : Nat) (e : Diagnostic) :
    (ofDiagnostic index e).IsUnambiguous := by
  refine .object ?_ ?_
  · rw [List.map_append]
    exact nodup_names_ofDiagnostic e.kind
  · rw [List.map_append]
    refine List.forall_mem_append.2 ⟨?_, isUnambiguous_kindFields e.kind⟩
    simp only [List.map_cons, List.map_nil, List.forall_mem_cons, named]
    exact ⟨.number _, .string _, isUnambiguous_ofLocation _,
      isUnambiguous_map isUnambiguous_ofSourceLine _, isUnambiguous_optional isUnambiguous_ofSpan _,
      .string _, by simp⟩

theorem isUnambiguous_ofSkipped (s : Skipped) : (ofSkipped s).IsUnambiguous := by
  refine .object (show ["index".toList, "failed".toList, "kind".toList, "message".toList,
    "location".toList].Nodup by decide) ?_
  simp only [List.map_cons, List.map_nil, List.forall_mem_cons, named]
  exact ⟨.number _, .bool _, .string _, .string _, isUnambiguous_optional isUnambiguous_ofLocation _,
    by simp⟩

/-- Every record is an object, and no name in it is used twice. -/
theorem isObject_of_mem_records {es : List Event} {v : Json} (h : v ∈ es.filterMap Event.record?) :
    (∃ fields, v = .object fields) ∧ v.IsUnambiguous := by
  obtain ⟨e, -, he⟩ := List.mem_filterMap.1 h
  cases e with
  | diagnostic index e => cases he; exact ⟨⟨_, rfl⟩, isUnambiguous_ofDiagnostic index e⟩
  | skipped s => cases he; exact ⟨⟨_, rfl⟩, isUnambiguous_ofSkipped s⟩
  | _ => cases he

end Record
end TypeReport
