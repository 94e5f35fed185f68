import TypeReport.Proofs.Location.Printer
import TypeReport.Proofs.MapM
import TypeReport.Proofs.Text.Phrases

/-! # Locations as they are read

Whatever line a location is read from, its path ends at the first quote, its lines are in
order, its numbers come from numerals, and its label is trimmed (`isPrintable_of_read`).
This is all that printing asks for, so the printable locations are those that some line
gives, and each of them is read back from all lines that it can be written on
(`parse_iff_isPrintable`). -/

namespace TypeReport

namespace Location

open Text

variable {d : Dialect} {style : PathStyle} {line : Text}

theorem parse_eq_ok_iff {l : Location} :
    parse d style line = .ok l ↔ read d style line = .ok l := by
  rw [parse]
  cases read d style line <;> simp [Except.mapError]

theorem parse_eq_error_iff {e : Failure} :
    parse d style line = .error e ↔
      ∃ fault, read d style line = .error fault ∧ e = .malformedLocation line fault := by
  rw [parse]
  cases read d style line <;> simp [Except.mapError, eq_comm]

/-! ### Numbers -/

theorem readRange?_lt {s : Text} {r : Nat × Nat} (h : readRange? s = some r) :
    r.1 < UInt32.size ∧ r.2 < UInt32.size := by
  simp only [readRange?, Option.bind_eq_bind, Option.bind_eq_some_iff] at h
  obtain ⟨parts, -, first, hfirst, last, hlast, h⟩ := h
  cases h
  exact ⟨readNat?_lt hfirst, readNat?_lt hlast⟩

theorem readLines_lt {field : Text} {r : Nat × Nat} (h : readLines field = .ok r) :
    r.1 < UInt32.size ∧ r.2 < UInt32.size := by
  unfold readLines at h
  split at h
  case h_1 => exact readRange?_lt (require_eq_ok_iff.1 h)
  case h_2 =>
    split at h
    case h_1 =>
      obtain ⟨n, hn, rfl⟩ := Option.map_eq_some_iff.1 (require_eq_ok_iff.1 h)
      exact ⟨readNat?_lt hn, readNat?_lt hn⟩
    case h_2 => cases h

theorem readCharacters_lt {field : Text} {r : Nat × Nat} (h : readCharacters field = .ok r) :
    r.1 < UInt32.size ∧ r.2 < UInt32.size := by
  obtain ⟨range, -, hrange⟩ := bind_eq_ok_iff.1 h
  exact readRange?_lt (require_eq_ok_iff.1 hrange)

/-! ### Lines -/

/-- What is read from a line can be printed. -/
theorem isPrintable_of_read {l : Location} (h : read d id line = .ok l) : l.IsPrintable := by
  simp only [read, bind_eq_ok_iff, require_eq_ok_iff] at h
  obtain ⟨_, -, ⟨path, _⟩, hpath, ⟨_, label⟩, -, ⟨_, charactersField⟩, -, ⟨startLine, endLine⟩,
    hlines, h⟩ := h
  split at h
  case isTrue => cases h
  case isFalse hordered =>
    obtain ⟨characters, hcharacters, h⟩ := bind_eq_ok_iff.1 h
    cases h
    constructor
    case path => exact not_mem_of_around? hpath
    case lines => exact Nat.not_lt.1 hordered
    case endLine => exact (readLines_lt hlines).2
    case characters =>
      intro r hr
      cases charactersField with
      | none =>
          cases hcharacters
          cases hr
      | some field =>
          obtain ⟨r', hr', heq⟩ := bind_eq_ok_iff.1 hcharacters
          cases heq
          cases hr
          exact readCharacters_lt hr'
    case label =>
      intro label hlabel
      dsimp only at hlabel
      split at hlabel
      case isTrue => cases hlabel
      case isFalse hne =>
        cases hlabel
        exact ⟨hne, isTrimmed_trim _⟩

/-- Whether a location can be written on a line like that. -/
def IsWritten (l : Location) (line : Text) : Prop :=
  ∃ indent field, isBlank indent = true ∧ l.IsLinesField field ∧
    line = indent ++ l.lineWith .ocaml4 field

theorem isWritten_print (l : Location) {indent : Text} (h : isBlank indent = true) :
    l.IsWritten (indent ++ l.print .ocaml4) :=
  ⟨indent, l.printLines, h, isLinesField_printLines l, by rw [print_eq]⟩

theorem parse_of_isWritten {l : Location} (h : l.IsPrintable) (hline : l.IsWritten line) :
    parse .ocaml4 id line = .ok l := by
  obtain ⟨indent, field, hindent, hfield, rfl⟩ := hline
  exact parse_eq_ok_iff.2 (read_line h id hindent hfield)

/-- The locations that are read from lines are the printable ones, and each is read from all lines
that it can be written on.  So a location that is read, printed and read again stays the same. -/
theorem parse_iff_isPrintable (l : Location) :
    ((∃ line, parse .ocaml4 id line = .ok l) ↔ l.IsPrintable) ∧
    (l.IsPrintable → ∀ line, l.IsWritten line → parse .ocaml4 id line = .ok l) ∧
    (∀ indent, isBlank indent = true → l.IsWritten (indent ++ l.print .ocaml4)) ∧
    ∀ line, parse .ocaml4 id line = .ok l → parse .ocaml4 id (l.print .ocaml4) = .ok l := by
  have hprint : l.IsWritten ([] ++ l.print .ocaml4) := isWritten_print l rfl
  have himage (line : Text) (h : parse .ocaml4 id line = .ok l) : l.IsPrintable :=
    isPrintable_of_read (parse_eq_ok_iff.1 h)
  refine ⟨⟨?_, ?_⟩, ?_, ?_, ?_⟩
  · rintro ⟨line, hline⟩
    exact himage line hline
  · intro h
    exact ⟨_, parse_of_isWritten h hprint⟩
  · exact fun h line hline => parse_of_isWritten h hline
  · exact fun indent hindent => isWritten_print l hindent
  · exact fun line hline => parse_of_isWritten (himage line hline) hprint

/-- A single line that is written as a range, with separators in the path and in the label. -/
theorem parse_iff_isPrintable_separators :
    parse .ocaml4 id "\u00a0 File \"a, b:1\", lines 4-4, characters 7-0: see \", line 2:".toList =
        .ok ⟨"a, b:1".toList, 4, 4, some (7, 0), some "see \", line 2:".toList⟩ ∧
      parse .ocaml4 id "File \"a, b:1\", line 4, characters 7-0: see \", line 2:".toList =
        .ok ⟨"a, b:1".toList, 4, 4, some (7, 0), some "see \", line 2:".toList⟩ := by
  obtain ⟨-, hwritten, -, hagain⟩ := parse_iff_isPrintable
    ⟨"a, b:1".toList, 4, 4, some (7, 0), some "see \", line 2:".toList⟩
  have h : IsPrintable ⟨"a, b:1".toList, 4, 4, some (7, 0), some "see \", line 2:".toList⟩ :=
    ⟨by decide, by decide, by decide, by decide, by decide⟩
  have hline := hwritten h
    "\u00a0 File \"a, b:1\", lines 4-4, characters 7-0: see \", line 2:".toList
    ⟨"\u00a0 ".toList, _, by decide, .range, by decide⟩
  exact ⟨hline, hagain _ hline⟩

end Location
end TypeReport
