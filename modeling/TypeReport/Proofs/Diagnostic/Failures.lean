import TypeReport.Proofs.Backtrace.Chunks
import TypeReport.Proofs.Diagnostic.Parts
import TypeReport.Proofs.Location.Reader

/-! # Why a block cannot be read

A block that cannot be read has a location line that is none, a line before the body that
is neither source nor marker, no body, or a body that cannot be read, in this order
(`parse_eq_error_iff`, `parseBody_eq_error_iff`).  A body cannot be read for a reference
that is no location or for a mismatch without a connective (`Kind.isOfBody_of_parse`). -/

namespace TypeReport

variable {d : Dialect} {style : PathStyle}

/-- The location of a block, if its first line is one. -/
def Block.location? (d : Dialect) (style : PathStyle) (b : Block) : Option Location :=
  b.firstLine?.bind fun line => (Location.read d style line).toOption

theorem Block.location?_of_cons {b : Block} {first : Text} {rest : List Text}
    (h : b.lines = first :: rest) : b.location? d style = (Location.read d style first).toOption := by
  rw [location?, firstLine?, h]
  rfl

theorem Block.location?_eq_some_iff {b : Block} {first : Text} {rest : List Text}
    (h : b.lines = first :: rest) {l : Location} :
    b.location? d style = some l ↔ Location.parse d style first = .ok l := by
  rw [location?_of_cons h, Location.parse_eq_ok_iff]
  cases Location.read d style first <;> simp [Except.toOption]

/-- Whether a failure can be about the body of an error. -/
inductive Failure.IsOfBody : Failure → Prop where
  | reference (line : Text) (fault : LocationFault) : IsOfBody (.malformedLocation line fault)
  | mismatch (chunk : Text) : IsOfBody (.unrecognizedConnective chunk)

/-- Whether a failure can be about what stands behind the location line of `l`. -/
inductive Failure.IsBehind (l : Location) : Failure → Prop where
  | unexpectedLine (line : Text) : IsBehind l (.unexpectedLine line)
  | missingErrorLine : IsBehind l (.missingErrorLine l.place)
  | body {e : Failure} (h : e.IsOfBody) : IsBehind l e

theorem Failure.IsBehind.ne_malformedStart {l : Location} {e : Failure} (h : e.IsBehind l) (n : Nat)
    (line : Text) : e ≠ .malformedStart n line := by
  rintro rfl
  cases h with
  | body h => cases h

theorem Failure.IsBehind.place_eq {l : Location} {place : Text}
    (h : (Failure.missingErrorLine place).IsBehind l) : l.place = place := by
  cases h with
  | missingErrorLine => rfl
  | body h => cases h

namespace Kind

theorem isOfBody_of_backtrace {ls : List Text} {e : Failure} (h : Backtrace.parse d ls = .error e) :
    e.IsOfBody := by
  obtain ⟨_, chunk, _, -, -, -, -, rfl⟩ := Backtrace.parse_eq_error_iff.1 h
  exact .mismatch chunk.trim

theorem isOfBody_of_reference {line? : Option Text} {e : Failure}
    (h : line?.mapM (Location.parse d style) = .error e) : e.IsOfBody := by
  cases line? with
  | none => cases h
  | some line =>
      rw [Option.mapM_some, map_eq_pure_bind, bind_eq_error_iff] at h
      rcases h with h | ⟨l, -, h⟩
      · obtain ⟨fault, -, rfl⟩ := Location.parse_eq_error_iff.1 h
        exact .reference line fault
      · cases h

theorem isOfBody_of_parseInterface {summary : Text} {ls : List Text} {e : Failure}
    (h : parseInterface d style summary ls = .error e) : e.IsOfBody := by
  simp only [parseInterface, bind_eq_error_iff] at h
  rcases h with h | ⟨_, -, h | ⟨_, -, h | ⟨_, -, h⟩⟩⟩
  · exact isOfBody_of_backtrace h
  · exact isOfBody_of_reference h
  · exact isOfBody_of_reference h
  · cases h

theorem isOfBody_of_parse {errorLine : Text} {rest : List Text} {e : Failure}
    (h : parse d style errorLine rest = .error e) : e.IsOfBody := by
  simp only [parse] at h
  split at h
  case isTrue =>
    rcases bind_eq_error_iff.1 h with h | ⟨_, -, h⟩
    · exact isOfBody_of_backtrace h
    · cases h
  case isFalse =>
    split at h
    case isTrue =>
      split at h
      case isTrue => exact isOfBody_of_parseInterface h
      case isFalse => exact isOfBody_of_parseInterface h
    case isFalse => cases h

end Kind

namespace Diagnostic

theorem parseBody_eq_error_iff {location : Location} {ls : List Text} {e : Failure} :
    parseBody d style location ls = .error e ↔
      (ls.takeWhile (!d.opensError ·)).mapM
        (fun line => require (Failure.unexpectedLine line) (Echo.read? line)) = .error e ∨
      (∃ echoes, (ls.takeWhile (!d.opensError ·)).mapM
        (fun line => require (Failure.unexpectedLine line) (Echo.read? line)) = .ok echoes) ∧
      (ls.dropWhile (!d.opensError ·) = [] ∧ e = .missingErrorLine location.place ∨
        ∃ errorLine rest, ls.dropWhile (!d.opensError ·) = errorLine :: rest ∧
          Kind.parse d style errorLine rest = .error e) := by
  simp only [parseBody, bind, Except.bind]
  cases hechoes : (ls.takeWhile (!d.opensError ·)).mapM
    (fun line => require (Failure.unexpectedLine line) (Echo.read? line)) with
  | error e' => simp
  | ok echoes =>
      cases hbody : ls.dropWhile (!d.opensError ·) with
      | nil => simp [throw, throwThe, MonadExceptOf.throw, eq_comm]
      | cons errorLine rest =>
          cases hkind : Kind.parse d style errorLine rest with
          | error e' => simp [hkind]
          | ok kind => simp [hkind, pure, Except.pure]

/-- Lines that are not all echoes are blamed for one that is none. -/
theorem exists_eq_unexpectedLine {ls : List Text} {e : Failure}
    (h : ls.mapM (fun line => require (Failure.unexpectedLine line) (Echo.read? line)) =
      .error e) : ∃ line, e = .unexpectedLine line := by
  obtain ⟨_, line, _, -, -, hline⟩ := mapM_eq_error_iff.1 h
  cases hread : Echo.read? line with
  | none =>
      rw [hread] at hline
      cases hline
      exact ⟨line, rfl⟩
  | some echo =>
      rw [hread] at hline
      cases hline

theorem isBehind_of_parseBody {location : Location} {ls : List Text} {e : Failure}
    (h : parseBody d style location ls = .error e) : e.IsBehind location := by
  rcases parseBody_eq_error_iff.1 h with h | ⟨-, ⟨-, rfl⟩ | ⟨errorLine, rest, -, h⟩⟩
  · obtain ⟨line, rfl⟩ := exists_eq_unexpectedLine h
    exact .unexpectedLine line
  · exact .missingErrorLine
  · exact .body (Kind.isOfBody_of_parse h)

theorem parse_eq_error_iff {b : Block} {e : Failure} : parse d style b = .error e ↔
    b.lines = [] ∧ e = .malformedStart 1 [] ∨
    ∃ first rest, b.lines = first :: rest ∧
      ((∃ fault, Location.read d style first = .error fault ∧ e = .malformedLocation first fault) ∨
        ∃ location, Location.read d style first = .ok location ∧
          parseBody d style location rest = .error e) := by
  unfold parse
  cases hlines : b.lines with
  | nil => simp [eq_comm]
  | cons first rest =>
      simp only [bind_eq_error_iff, Location.parse_eq_error_iff, Location.parse_eq_ok_iff]
      simp

/-- A block with a first line fails for that, or for what stands behind it. -/
theorem isBehind_of_parse {b : Block} {first : Text} {rest : List Text} {e : Failure}
    (hlines : b.lines = first :: rest) (h : parse d style b = .error e) :
    b.location? d style = none ∧ (∃ fault, e = .malformedLocation first fault) ∨
      ∃ l, b.location? d style = some l ∧ e.IsBehind l := by
  rcases parse_eq_error_iff.1 h with ⟨hnil, -⟩ | ⟨first', rest', hlines', h⟩
  · rw [hlines] at hnil
    cases hnil
  · rw [hlines] at hlines'
    cases hlines'
    rw [Block.location?_of_cons hlines]
    rcases h with ⟨fault, hfault, rfl⟩ | ⟨l, hl, hbody⟩
    · rw [hfault]
      exact .inl ⟨rfl, fault, rfl⟩
    · rw [hl]
      exact .inr ⟨l, rfl, isBehind_of_parseBody hbody⟩

end Diagnostic
end TypeReport
