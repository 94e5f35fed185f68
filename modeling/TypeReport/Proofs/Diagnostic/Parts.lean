import TypeReport.Diagnostic.Parser
import TypeReport.Proofs.MapM

/-! # What a diagnostic is read from

A block that can be read has a location line, echoed lines that can all be read, and a
line that opens the body of the error, and the diagnostic is put together from what is
read of these (`parse_eq_ok_iff`, `parseBody_eq_ok_iff`).  The backtrace of a mismatch
is read from lines of the body, with the description in place of the first
(`exists_parse_of_backtrace?`). -/

namespace TypeReport

variable {d : Dialect} {style : PathStyle}

namespace Kind

theorem parseInterface_eq_ok {summary : Text} {ls : List Text} {kind : Kind}
    (h : parseInterface d style summary ls = .ok kind) :
    ∃ backtrace expected actual,
      Backtrace.parse d ((ls.takeWhile (!d.isReference ·)).dropWhile (!d.isBoundary ·)) =
        .ok backtrace ∧
      (ls.filter d.isReference)[0]?.mapM (Location.parse d style) = .ok expected ∧
      (ls.filter d.isReference)[1]?.mapM (Location.parse d style) = .ok actual ∧
      kind = .interfaceMismatch summary actual expected backtrace := by
  simp only [parseInterface, bind_eq_ok_iff] at h
  obtain ⟨backtrace, hbacktrace, expected, hexpected, actual, hactual, hkind⟩ := h
  cases hkind
  exact ⟨backtrace, expected, actual, hbacktrace, hexpected, hactual, rfl⟩

/-- The backtrace of an interface mismatch is read from some of the lines behind the summary. -/
theorem exists_parse_of_parseInterface {summary : Text} {ls : List Text} {kind : Kind}
    (h : parseInterface d style summary ls = .ok kind) {b : Backtrace}
    (hb : b ∈ kind.backtrace?) : ∃ ls', ls' ⊆ ls ∧ Backtrace.parse d ls' = .ok b := by
  obtain ⟨backtrace, expected, actual, hbacktrace, -, -, rfl⟩ := parseInterface_eq_ok h
  cases hb
  refine ⟨_, ?_, hbacktrace⟩
  exact fun l hl => List.takeWhile_subset _ (List.dropWhile_subset _ hl)

/-- The backtrace of a mismatch is read from the description and some of the lines that follow. -/
theorem exists_parse_of_backtrace? {errorLine : Text} {rest : List Text} {kind : Kind}
    (h : parse d style errorLine rest = .ok kind) {b : Backtrace} (hb : b ∈ kind.backtrace?) :
    ∃ ls, ls ⊆ description d errorLine :: rest ∧ Backtrace.parse d ls = .ok b := by
  simp only [parse] at h
  split at h
  case isTrue =>
    obtain ⟨backtrace, hbacktrace, hkind⟩ := bind_eq_ok_iff.1 h
    cases hkind
    cases hb
    exact ⟨_, List.Subset.refl _, hbacktrace⟩
  case isFalse =>
    split at h
    case isTrue =>
      split at h
      case isTrue =>
        obtain ⟨ls, hls, hparse⟩ := exists_parse_of_parseInterface h hb
        exact ⟨ls, fun l hl => List.mem_cons_of_mem _ (hls hl), hparse⟩
      case isFalse =>
        obtain ⟨ls, hls, hparse⟩ := exists_parse_of_parseInterface h hb
        refine ⟨ls, fun l hl => List.mem_cons_of_mem _ ?_, hparse⟩
        exact List.dropWhile_subset _ (List.drop_subset _ _ (hls hl))
    case isFalse =>
      cases h
      cases hb

end Kind

namespace Diagnostic

theorem parseBody_eq_ok_iff {location : Location} {ls : List Text} {e : Diagnostic} :
    parseBody d style location ls = .ok e ↔ ∃ echoes errorLine rest kind,
      (ls.takeWhile (!d.opensError ·)).mapM
        (fun line => require (Failure.unexpectedLine line) (Echo.read? line)) = .ok echoes ∧
      ls.dropWhile (!d.opensError ·) = errorLine :: rest ∧
      Kind.parse d style errorLine rest = .ok kind ∧
      e = ⟨location, (echoes.filterMap Echo.source?).map (·.2), marker? echoes, kind⟩ := by
  constructor
  · intro h
    obtain ⟨echoes, hechoes, h⟩ := bind_eq_ok_iff.1 h
    split at h
    case h_1 => cases h
    case h_2 errorLine rest hbody =>
      obtain ⟨kind, hkind, h⟩ := bind_eq_ok_iff.1 h
      cases h
      exact ⟨echoes, errorLine, rest, kind, hechoes, hbody, hkind, rfl⟩
  · rintro ⟨echoes, errorLine, rest, kind, hechoes, hbody, hkind, rfl⟩
    simp only [parseBody, hechoes, hbody, hkind, bind, Except.bind]
    rfl

theorem parse_eq_ok_iff {b : Block} {e : Diagnostic} :
    parse d style b = .ok e ↔ ∃ first rest location, b.lines = first :: rest ∧
      Location.parse d style first = .ok location ∧ parseBody d style location rest = .ok e := by
  constructor
  · intro h
    unfold parse at h
    split at h
    case h_1 => cases h
    case h_2 first rest hlines =>
      obtain ⟨location, hlocation, h⟩ := bind_eq_ok_iff.1 h
      exact ⟨first, rest, location, hlines, hlocation, h⟩
  · rintro ⟨first, rest, location, hlines, hlocation, hbody⟩
    simp only [parse, hlines, hlocation, bind, Except.bind]
    exact hbody

end Diagnostic
end TypeReport
