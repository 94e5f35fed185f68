import TypeReport.Diagnostic.Parser
import TypeReport.Proofs.Checked.Backtrace
import TypeReport.Proofs.Checked.Position

/-! # Checked diagnostics

The lines of an interface mismatch are taken apart at places: the number of lines that the
description takes (`describe`), the place of the first reference, and that of the first
boundary before it.  A place that is looked for and not found is the end of the lines.
Location lines and source lines are read by matching prefixes, which cannot fail. -/

namespace TypeReport.Checked

/-! ### Lists -/

variable {α : Type}

theorem splitAt_findIdx (xs : List α) (p : α → Bool) :
    splitAt xs (xs.findIdx p) = some (xs.takeWhile (!p ·), xs.dropWhile (!p ·)) := by
  rw [splitAt_eq List.findIdx_le_length, List.takeWhile_eq_take_findIdx_not,
    List.dropWhile_eq_drop_findIdx_not]
  simp only [Bool.not_not]

theorem drop_findIdx (xs : List α) (p : α → Bool) :
    drop xs (xs.findIdx p) = some (xs.dropWhile (!p ·)) := by
  rw [drop_eq List.findIdx_le_length, List.dropWhile_eq_drop_findIdx_not]
  simp only [Bool.not_not]

theorem filter_dropWhile_not (xs : List α) (p : α → Bool) :
    (xs.dropWhile (!p ·)).filter p = xs.filter p := by
  induction xs with
  | nil => rfl
  | cons x xs ih =>
      by_cases hx : p x = true
      · rw [List.dropWhile_cons_of_neg (by simp [hx])]
      · rw [List.dropWhile_cons_of_pos (by simp [hx]), ih, List.filter_cons_of_neg hx]

/-! ### Kinds -/

/-- Goes on with a description and the number of lines it takes, up to the first line with a
colon. -/
def describe (summary : Text) (consumed : Nat) : List Text → Text × Nat
  | [] => (summary, consumed)
  | line :: lines =>
      let summary := summary ++ ' ' :: line.trim
      if Kind.hasColon line then (summary, consumed + 1)
      else describe summary (consumed + 1) lines

/-- Reads the lines that follow the description of an interface mismatch. -/
def interfaceLines (d : Dialect) (style : PathStyle) (summary : Text) (ls : List Text) :
    Checked (Except Failure Kind) := do
  let (body, behind) ← splitAt ls (ls.findIdx d.isReference)
  let found ← backtrace d (← drop body (body.findIdx d.isBoundary))
  let references := behind.filter d.isReference
  return do
    let backtrace ← found
    let expected ← references[0]?.mapM (Location.parse d style)
    let actual ← references[1]?.mapM (Location.parse d style)
    return .interfaceMismatch summary actual expected backtrace

/-- Reads an interface mismatch from the start of its description and the lines that follow. -/
def interface (d : Dialect) (style : PathStyle) (description : Text) (rest : List Text) :
    Checked (Except Failure Kind) := do
  let (summary, consumed) :=
    if Kind.hasColon description then (description, 0) else describe description 0 rest
  interfaceLines d style summary (← drop rest consumed)

def kind (d : Dialect) (style : PathStyle) (errorLine : Text) (rest : List Text) :
    Checked (Except Failure Kind) :=
  let description := Kind.description d errorLine
  if description.startsWith d.expressionOpening then do
    let found ← backtrace d (description :: rest)
    return found.map (.expressionMismatch description)
  else if description.startsWith d.interfaceOpening then
    interface d style description rest
  else
    return .ok (.plain (Text.trimEnd (Text.joinLines (errorLine :: rest))))

theorem describe_eq (summary : Text) (n : Nat) (ls : List Text) :
    describe summary n ls =
      (summary ++ (Kind.throughColon ls).flatMap fun line => ' ' :: line.trim,
        n + (Kind.throughColon ls).length) := by
  induction ls generalizing summary n with
  | nil => simp [describe, Kind.throughColon]
  | cons line ls ih =>
      rw [describe]
      by_cases hcolon : Kind.hasColon line = true
      · have hlines : Kind.throughColon (line :: ls) = [line] := by
          simp [Kind.throughColon, hcolon]
        rw [if_pos hcolon, hlines, List.flatMap_singleton]
        rfl
      · have hlines : Kind.throughColon (line :: ls) = line :: Kind.throughColon ls := by
          simp [Kind.throughColon, hcolon]
        rw [if_neg hcolon, ih, hlines, List.flatMap_cons, List.length_cons, List.append_assoc,
          Nat.add_assoc, Nat.add_comm 1]

theorem interfaceLines_eq (d : Dialect) (style : PathStyle) (summary : Text) (ls : List Text) :
    interfaceLines d style summary ls = some (Kind.parseInterface d style summary ls) := by
  simp only [interfaceLines, splitAt_findIdx, drop_findIdx, backtrace_eq, filter_dropWhile_not,
    Option.bind_eq_bind, Option.bind_some]
  rfl

theorem interface_of_hasColon {description : Text} (h : Kind.hasColon description = true)
    (d : Dialect) (style : PathStyle) (rest : List Text) :
    interface d style description rest = some (Kind.parseInterface d style description rest) := by
  have hrest : drop rest 0 = some rest := drop_eq (Nat.zero_le _)
  rw [interface, if_pos h]
  simp only [hrest, Option.bind_eq_bind, Option.bind_some, interfaceLines_eq]

theorem interface_of_not_hasColon {description : Text} (h : ¬ Kind.hasColon description = true)
    (d : Dialect) (style : PathStyle) (rest : List Text) :
    interface d style description rest =
      some (Kind.parseInterface d style
        (description ++ (Kind.throughColon rest).flatMap fun line => ' ' :: line.trim)
        (Kind.pastColon rest)) := by
  have hrest : drop rest (Kind.throughColon rest).length = some (Kind.pastColon rest) := by
    have hdrop := drop_append (Kind.throughColon rest) (Kind.pastColon rest)
    rwa [Kind.throughColon_append_pastColon] at hdrop
  rw [interface, if_neg h, describe_eq, Nat.zero_add]
  simp only [hrest, Option.bind_eq_bind, Option.bind_some, interfaceLines_eq]

theorem kind_eq (d : Dialect) (style : PathStyle) (errorLine : Text) (rest : List Text) :
    kind d style errorLine rest = some (Kind.parse d style errorLine rest) := by
  unfold kind Kind.parse
  generalize Kind.description d errorLine = description
  by_cases hexpression : description.startsWith d.expressionOpening = true
  · simp only [hexpression, if_true, backtrace_eq, Option.bind_eq_bind, Option.bind_some]
    cases Backtrace.parse d (description :: rest) with
    | error e => rfl
    | ok b => rfl
  · by_cases hinterface : description.startsWith d.interfaceOpening = true
    · simp only [hexpression, hinterface, if_true, if_false, Bool.false_eq_true]
      by_cases hcolon : Kind.hasColon description = true
      · rw [interface_of_hasColon hcolon, if_pos hcolon]
      · rw [interface_of_not_hasColon hcolon, if_neg hcolon]
    · simp only [hexpression, hinterface, if_false, Bool.false_eq_true]
      rfl

/-! ### Markers -/

/-- The part of a source line that the carets on some lines mark.  The subtractions here end
at zero: carets left of the source text mark its start. -/
def span? (markerLines : List Text) (labelSize : Nat) (source : Text) : Checked (Option Span) :=
  let offsets := markerLines.flatMap (Text.offsets '^')
  match offsets.min?, offsets.max? with
  | some first, some last => do
      let gutter := labelSize + Marker.barSize
      let start ← floor source (first - gutter)
      let stop ← floor source (last + 1 - gutter)
      return some ⟨start, max start stop⟩
  | _, _ => return none

theorem span?_eq (markerLines : List Text) (labelSize : Nat) (source : Text) :
    span? markerLines labelSize source = some (Marker.span? markerLines labelSize source) := by
  unfold span? Marker.span?
  generalize markerLines.flatMap (Text.offsets '^') = offsets
  simp only [floor_eq, Option.bind_eq_bind, Option.bind_some]
  cases offsets.min? with
  | none => rfl
  | some first =>
      cases offsets.max? with
      | none => rfl
      | some last => rfl

/-! ### Blocks -/

def marker? (echoes : List Echo) : Checked (Option Span) :=
  match (echoes.filterMap Echo.source?).getLast? with
  | none => return none
  | some (labelSize, line) => span? (echoes.filterMap Echo.carets?) labelSize line.text

def body (d : Dialect) (style : PathStyle) (location : Location) (ls : List Text) :
    Checked (Except Failure Diagnostic) :=
  let read := (ls.takeWhile (!d.opensError ·)).mapM fun line =>
    require (.unexpectedLine line) (Echo.read? line)
  andThen read fun echoes => do
    match ls.dropWhile (!d.opensError ·) with
    | [] => return .error (.missingErrorLine location.place)
    | errorLine :: rest =>
        andThen (← kind d style errorLine rest) fun kind => do
          let marker ← marker? echoes
          return .ok ⟨location, (echoes.filterMap Echo.source?).map (·.2), marker, kind⟩

def diagnostic (d : Dialect) (style : PathStyle) (b : Block) :
    Checked (Except Failure Diagnostic) :=
  match b.lines with
  | [] => return .error (.malformedStart 1 [])
  | first :: rest =>
      andThen (Location.parse d style first) fun location => body d style location rest

theorem marker?_eq (echoes : List Echo) : marker? echoes = some (Diagnostic.marker? echoes) := by
  unfold marker? Diagnostic.marker?
  cases (echoes.filterMap Echo.source?).getLast? with
  | none => rfl
  | some source => exact span?_eq _ _ _

theorem body_eq (d : Dialect) (style : PathStyle) (location : Location) (ls : List Text) :
    body d style location ls = some (Diagnostic.parseBody d style location ls) := by
  refine andThen_eq (fun echoes => ?_) _
  cases ls.dropWhile (!d.opensError ·) with
  | nil => rfl
  | cons errorLine rest =>
      simp only [kind_eq, Option.bind_eq_bind, Option.bind_some]
      refine andThen_eq (fun kind => ?_) _
      rw [marker?_eq]
      rfl

theorem diagnostic_eq (d : Dialect) (style : PathStyle) (b : Block) :
    diagnostic d style b = some (Diagnostic.parse d style b) := by
  unfold diagnostic Diagnostic.parse
  cases b.lines with
  | nil => rfl
  | cons first rest => exact andThen_eq (body_eq d style · rest) _

end TypeReport.Checked
