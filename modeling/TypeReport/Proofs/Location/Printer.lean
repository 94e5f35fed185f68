import TypeReport.Location.Parser
import TypeReport.Proofs.Text.Printed

/-! # Location lines read back

A location that can be printed on a line (`Location.IsPrintable`) is what reading the
line gives, whatever blanks stand before it (`read_line`, `read_print`).  The path may hold
commas, colons and blanks, since the fields are looked for behind its closing quote only.
A single line can be written as a range too, and is read the same (`IsLinesField`). -/

namespace TypeReport.Location

open Text

/-- Whether a location can be read back from its line. -/
structure IsPrintable (l : Location) : Prop where
  path : '"' ∉ l.path
  lines : l.startLine ≤ l.endLine
  -- the bound of numerals, and so of the first line, too
  endLine : l.endLine < UInt32.size
  characters : ∀ r ∈ l.characters, r.1 < UInt32.size ∧ r.2 < UInt32.size
  label : ∀ label ∈ l.label, label ≠ [] ∧ IsTrimmed label

/-! ### Fields -/

theorem printRange_ne_nil (r : Nat × Nat) : printRange r ≠ [] := by simp [printRange]

theorem isTrimmed_printRange (r : Nat × Nat) : IsTrimmed (printRange r) := by
  have := isTrimmed_append (isTrimmed_ofNat r.1) (isTrimmed_ofNat r.2) (ofNat_ne_nil r.1)
    (ofNat_ne_nil r.2) ['-']
  simpa [printRange] using this

theorem readRange?_printRange {r : Nat × Nat} (h : r.1 < UInt32.size ∧ r.2 < UInt32.size) :
    readRange? (printRange r) = some r := by
  have hdash : around? (printRange r) ['-'] = some (ofNat r.1, ofNat r.2) :=
    around?_append (not_mem_ofNat rfl r.1) [] (ofNat r.2)
  rw [readRange?, trim_eq_self (isTrimmed_printRange r), hdash]
  simp only [Option.bind_eq_bind, Option.bind_some, trim_eq_self (isTrimmed_ofNat _),
    readNat?_ofNat h.1, readNat?_ofNat h.2]
  rfl

/-- Whether a field says which lines a location has: a single number, or the first and the last. -/
inductive IsLinesField (l : Location) : Text → Prop where
  | single (h : l.endLine = l.startLine) :
      IsLinesField l ("line ".toList ++ ofNat l.startLine)
  | range : IsLinesField l ("lines ".toList ++ printRange (l.startLine, l.endLine))

theorem isLinesField_printLines (l : Location) : l.IsLinesField l.printLines := by
  unfold printLines
  split
  case isTrue => exact .range
  case isFalse hsingle => exact .single (by simpa [isMultiline] using hsingle)

/-- The keyword of a single line does not start that of a range. -/
theorem after?_lines_single (s : Text) : after? ("line ".toList ++ s) "lines ".toList = none := rfl

theorem readLines_field {l : Location} (h : l.IsPrintable) {field : Text}
    (hfield : l.IsLinesField field) : readLines field = .ok (l.startLine, l.endLine) := by
  have hend := h.endLine
  have hle := h.lines
  cases hfield with
  | single hsingle =>
      have hnumber := readNat?_ofNat (show l.startLine < UInt32.size by omega)
      rw [readLines, after?_lines_single, after?_append]
      simp only [trim_eq_self (isTrimmed_ofNat _), hnumber]
      rw [hsingle]
      rfl
  | range =>
      have hrange := readRange?_printRange (r := (l.startLine, l.endLine)) ⟨by omega, hend⟩
      rw [readLines, after?_append]
      simp only [hrange]
      rfl

theorem readCharacters_printRange {r : Nat × Nat} (h : r.1 < UInt32.size ∧ r.2 < UInt32.size) :
    readCharacters ("characters ".toList ++ printRange r) = .ok r := by
  rw [readCharacters, after?_append]
  show require LocationFault.characterRange (readRange? (printRange r)) = _
  rw [readRange?_printRange h]
  rfl

/-! ### The fields of a line -/

/-- The fields that stand behind the path, where `field` is the one about lines. -/
def fieldsWith (l : Location) (field : Text) : Text :=
  ", ".toList ++ field ++ printCharacters l.characters

/-- The location line of a location, where `field` is the one about lines. -/
def lineWith (d : Dialect) (l : Location) (field : Text) : Text :=
  d.locationOpening ++ (l.path ++ '"' :: (l.fieldsWith field ++ ':' :: printLabel l.label))

theorem print_eq (d : Dialect) (l : Location) : l.print d = l.lineWith d l.printLines := by
  have hquote : "\", ".toList = '"' :: ", ".toList := rfl
  simp only [print, lineWith, fieldsWith, hquote, List.append_assoc, List.cons_append]

theorem not_mem_printRange {c : Char} (hdigit : c.isDigit = false) (hdash : c ≠ '-')
    (r : Nat × Nat) : c ∉ printRange r := by
  simp [printRange, not_mem_ofNat hdigit, hdash]

theorem IsLinesField.isTrimmed {l : Location} {field : Text} (h : l.IsLinesField field) :
    IsTrimmed field := by
  cases h with
  | single =>
      exact isTrimmed_append (a := "line".toList) (by decide) (isTrimmed_ofNat _)
        (List.cons_ne_nil _ _) (ofNat_ne_nil _) [' ']
  | range =>
      exact isTrimmed_append (a := "lines".toList) (by decide) (isTrimmed_printRange _)
        (List.cons_ne_nil _ _) (printRange_ne_nil _) [' ']

theorem IsLinesField.not_mem {l : Location} {field : Text} (h : l.IsLinesField field) {c : Char}
    (hword : c ∉ "lines ".toList ++ "line ".toList) (hdigit : c.isDigit = false) (hdash : c ≠ '-') :
    c ∉ field := by
  rw [List.mem_append, not_or] at hword
  intro hc
  cases h with
  | single =>
      rcases List.mem_append.1 hc with hc | hc
      · exact hword.2 hc
      · exact not_mem_ofNat hdigit _ hc
  | range =>
      rcases List.mem_append.1 hc with hc | hc
      · exact hword.1 hc
      · exact not_mem_printRange hdigit hdash _ hc

theorem printCharacters_none : printCharacters none = [] := rfl

theorem printCharacters_some (r : Nat × Nat) :
    printCharacters (some r) = ", characters ".toList ++ printRange r := rfl

theorem not_mem_printCharacters {c : Char} (hword : c ∉ ", characters ".toList)
    (hdigit : c.isDigit = false) (hdash : c ≠ '-') (r : Option (Nat × Nat)) :
    c ∉ printCharacters r := by
  cases r with
  | none =>
      rw [printCharacters_none]
      exact List.not_mem_nil
  | some r =>
      rw [printCharacters_some]
      intro hc
      rcases List.mem_append.1 hc with hc | hc
      · exact hword hc
      · exact not_mem_printRange hdigit hdash r hc

theorem trim_space_cons {s : Text} (h : IsTrimmed s) : trim (' ' :: s) = s := by
  have hspace : isBlank [' '] = true := by decide
  have := trim_append hspace (b := []) rfl h
  rwa [List.append_nil] at this

theorem readFields_fieldsWith {l : Location} {field : Text} (hfield : l.IsLinesField field) :
    readFields (l.fieldsWith field) =
      .ok (field, l.characters.map ("characters ".toList ++ printRange ·)) := by
  have hlines : ',' ∉ ' ' :: field := by
    have := hfield.not_mem (c := ',') (by decide) rfl (by decide)
    simp [this]
  have htrim := trim_space_cons hfield.isTrimmed
  cases hc : l.characters with
  | none =>
      have hfields : l.fieldsWith field = [] ++ ',' :: (' ' :: field) := by
        rw [fieldsWith, hc, printCharacters_none, List.append_nil]
        rfl
      rw [readFields, hfields, List.splitOn_append_cons_self_of_not_mem List.not_mem_nil,
        List.splitOn_eq_singleton hlines, List.map_cons, List.map_singleton, htrim]
      rfl
  | some r =>
      have hfields : l.fieldsWith field =
          [] ++ ',' :: (' ' :: field ++ ',' :: (' ' :: ("characters ".toList ++ printRange r))) := by
        rw [fieldsWith, hc, printCharacters_some, List.append_assoc]
        rfl
      have hcharacters : ',' ∉ ' ' :: ("characters ".toList ++ printRange r) := by
        have := not_mem_printRange (c := ',') rfl (by decide) r
        simp [this]
      have hword : IsTrimmed ("characters ".toList ++ printRange r) :=
        isTrimmed_append (a := "characters".toList) (by decide) (isTrimmed_printRange r)
          (List.cons_ne_nil _ _) (printRange_ne_nil r) [' ']
      rw [readFields, hfields, List.splitOn_append_cons_self_of_not_mem List.not_mem_nil,
        List.splitOn_append_cons_self_of_not_mem hlines, List.splitOn_eq_singleton hcharacters,
        List.map_cons, List.map_cons, List.map_singleton, htrim, trim_space_cons hword]
      rfl

/-! ### Lines -/

theorem isTrimmed_lineWith {l : Location} (h : l.IsPrintable) (field : Text) :
    IsTrimmed (l.lineWith .ocaml4 field) := by
  have hopening : IsTrimmed Dialect.ocaml4.locationOpening := by decide
  have hne : Dialect.ocaml4.locationOpening ≠ [] := List.cons_ne_nil _ _
  rw [lineWith]
  cases hlabel : l.label with
  | none =>
      have := isTrimmed_append hopening (b := [':']) (by decide) hne (List.cons_ne_nil _ _)
        (l.path ++ '"' :: l.fieldsWith field)
      simpa [printLabel] using this
  | some label =>
      obtain ⟨hlabelne, hlabel⟩ := h.label label hlabel
      have := isTrimmed_append hopening hlabel hne hlabelne
        (l.path ++ '"' :: (l.fieldsWith field ++ [':', ' ']))
      simpa [printLabel] using this

theorem isTrimmed_print {l : Location} (h : l.IsPrintable) : IsTrimmed (l.print .ocaml4) := by
  rw [print_eq]
  exact isTrimmed_lineWith h _

theorem mapM_readCharacters {l : Location} (h : l.IsPrintable) :
    (l.characters.map ("characters ".toList ++ printRange ·)).mapM readCharacters =
      .ok l.characters := by
  have hcharacters := h.characters
  cases hc : l.characters with
  | none => rfl
  | some r =>
      have hr := readCharacters_printRange (hcharacters r hc)
      show some <$> readCharacters ("characters ".toList ++ printRange r) = _
      rw [hr]
      rfl

theorem label_printLabel {l : Location} (h : l.IsPrintable) :
    (if trim (printLabel l.label) = [] then none else some (trim (printLabel l.label))) =
      l.label := by
  cases hl : l.label with
  | none => rfl
  | some label =>
      obtain ⟨hne, htrimmed⟩ := h.label label hl
      rw [printLabel, trim_space_cons htrimmed, if_neg hne]

/-- A location is read back from its line, however its lines are written and whatever blanks stand
before it. -/
theorem read_line {l : Location} (h : l.IsPrintable) (style : PathStyle) {indent field : Text}
    (hindent : isBlank indent = true) (hfield : l.IsLinesField field) :
    read .ocaml4 style (indent ++ l.lineWith .ocaml4 field) = .ok (l.mapPath style) := by
  have htrim : trim (indent ++ l.lineWith .ocaml4 field) = l.lineWith .ocaml4 field := by
    have := trim_append hindent (b := []) rfl (isTrimmed_lineWith h field)
    rwa [List.append_nil] at this
  have hquote : around? (l.path ++ '"' :: (l.fieldsWith field ++ ':' :: printLabel l.label)) ['"'] =
      some (l.path, l.fieldsWith field ++ ':' :: printLabel l.label) := around?_append h.path [] _
  have hcolon : around? (l.fieldsWith field ++ ':' :: printLabel l.label) [':'] =
      some (l.fieldsWith field, printLabel l.label) := by
    refine around?_append ?_ [] (printLabel l.label)
    rw [fieldsWith, List.mem_append, List.mem_append, not_or, not_or]
    exact ⟨⟨by decide, hfield.not_mem (by decide) rfl (by decide)⟩,
      not_mem_printCharacters (by decide) rfl (by decide) l.characters⟩
  have hnot : ¬ l.endLine < l.startLine := Nat.not_lt.2 h.lines
  rw [read, htrim, lineWith, after?_append]
  simp only [require, bind, Except.bind, hquote, hcolon, readFields_fieldsWith hfield,
    readLines_field h hfield, if_neg hnot, mapM_readCharacters h, label_printLabel h]
  rfl

theorem read_print {l : Location} (h : l.IsPrintable) (style : PathStyle) {indent : Text}
    (hindent : isBlank indent = true) :
    read .ocaml4 style (indent ++ l.print .ocaml4) = .ok (l.mapPath style) := by
  rw [print_eq]
  exact read_line h style hindent (isLinesField_printLines l)

theorem parse_print {l : Location} (h : l.IsPrintable) (style : PathStyle) :
    parse .ocaml4 style (l.print .ocaml4) = .ok (l.mapPath style) := by
  have hread := read_print h style (show isBlank [] = true from rfl)
  rw [List.nil_append] at hread
  rw [parse, hread]
  rfl

/-! ### Lines without a label -/

theorem getLast?_print {l : Location} (h : l.label = none) (d : Dialect) :
    (l.print d).getLast? = some ':' := by
  rw [print, h, printLabel, List.getLast?_append_of_ne_nil _ (List.cons_ne_nil _ _)]
  rfl

theorem lf_not_mem_print {l : Location} (h : l.label = none) (hpath : '\n' ∉ l.path) :
    '\n' ∉ l.print .ocaml4 := by
  have hopening : '\n' ∉ Dialect.ocaml4.locationOpening := by decide
  have hcomma : '\n' ∉ ", ".toList := by decide
  have hlines : '\n' ∉ l.printLines :=
    (isLinesField_printLines l).not_mem (by decide) rfl (by decide)
  have hcharacters : '\n' ∉ printCharacters l.characters :=
    not_mem_printCharacters (by decide) rfl (by decide) l.characters
  rw [print_eq, lineWith, fieldsWith, h, printLabel]
  simp [hopening, hpath, hlines, hcharacters]

end TypeReport.Location
