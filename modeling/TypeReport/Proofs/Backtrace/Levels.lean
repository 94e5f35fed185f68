import TypeReport.Backtrace.Level
import TypeReport.Proofs.Backtrace.Marks
import TypeReport.Proofs.Backtrace.Wordings
import TypeReport.Proofs.MapM

/-! # Printed levels read back

A printed level opens with a boundary line and has no other one (`Level.exists_cons`), so
the chunks of printed levels are the levels, one by one (`Chunk.split_runs`).  Each is a
worded mismatch (`Level.exists_spacing`), which gives its sides back.  The backtrace then
has the levels for frames, the last printed first (`Backtrace.parse_levels`), and in the
case of an expression the mismatch that comes before the levels behind them
(`Backtrace.parse_root_levels`). -/

namespace TypeReport

open Text

/-! ### Chunks -/

namespace Chunk

/-- Whether lines make up a mismatch of plain sides in some wording. -/
structure IsWorded (ls : List Text) (s : Sides) : Prop where
  worded : ∃ (g : Spacing) (label connective : Text), IsWording label connective ∧
    ofLines ls = g.chunk label connective s
  plain : s.IsPlain

theorem infix_ofLines {ls : List Text} {l : Text} (h : l ∈ ls) : l <:+: ofLines ls := by
  obtain ⟨before, behind, rfl⟩ := List.append_of_mem h
  refine ⟨ofLines before, '\n' :: ofLines behind, ?_⟩
  simp [ofLines]

namespace IsWorded

variable {ls : List Text} {s : Sides} (h : IsWorded ls s)

include h

theorem sides_eq : sides .ocaml4 (ofLines ls) = .ok s := by
  obtain ⟨⟨g, label, connective, hwording, hchunk⟩, hplain⟩ := h
  rw [hchunk]
  exact g.sides_chunk hwording hplain

/-- The phrases that drop lines and mark notices do not come about. -/
theorem not_infix {w : Text}
    (hw : w ∈ Dialect.ocaml4.skippedPhrases ++ Dialect.ocaml4.escapePhrases) :
    ¬ w <:+: ofLines ls := by
  obtain ⟨⟨g, label, connective, hwording, hchunk⟩, hplain⟩ := h
  obtain ⟨hlabel, hconnective⟩ := hwording.others w hw
  have hmem : w ∈ Dialect.ocaml4.phrases := by
    rcases List.mem_append.1 hw with hw | hw
    · simp [Dialect.phrases, hw]
    · simp [Dialect.phrases, hw]
  rw [hchunk]
  exact g.not_infix_chunk (isPhrase_of_mem_phrases hmem) hlabel hconnective
    (hplain.implementation.phrases w hmem) (hplain.interface.phrases w hmem)

theorem isSkipped {l : Text} (hl : l ∈ ls) : Dialect.ocaml4.isSkipped l = false := by
  rw [Dialect.isSkipped, includesAny_eq_false_iff]
  intro w hw hoccurs
  exact h.not_infix (List.mem_append_left _ hw) (hoccurs.trans (infix_ofLines hl))

theorem isEscape : Dialect.ocaml4.isEscape (ofLines ls) = false := by
  rw [Dialect.isEscape, includesAny_eq_false_iff]
  exact fun w hw => h.not_infix (List.mem_append_right _ hw)

theorem isBlank : (ofLines ls).isBlank = false := by
  obtain ⟨⟨g, label, connective, hwording, hchunk⟩, -⟩ := h
  have hlabel := hwording.isPhrase_label
  obtain ⟨c, v, rfl⟩ := List.exists_cons_of_ne_nil hlabel.ne_nil
  have hc : isBlankChar c = false := hlabel.trimmed.1 c rfl
  rw [hchunk, Text.isBlank, List.all_eq_false]
  exact ⟨c, by simp [Spacing.chunk], by simp [hc]⟩

end IsWorded

/-- Lines that are put together from a lead and runs are split into these. -/
theorem split_runs {d : Dialect} {lead : List Text} {runs : List (List Text)}
    (hskipped : ∀ l ∈ lead ++ runs.flatten, d.isSkipped l = false)
    (hlead : ∀ l ∈ lead, d.isBoundary l = false)
    (hruns : ∀ run ∈ runs, ∃ first rest, run = first :: rest ∧ d.isBoundary first = true ∧
      ∀ l ∈ rest, d.isBoundary l = false) :
    split d (lead ++ runs.flatten) = ((lead :: runs).map ofLines).filter (!Text.isBlank ·) := by
  have hkept : (lead ++ runs.flatten).filter (!d.isSkipped ·) = lead ++ runs.flatten :=
    List.filter_eq_self.2 fun l hl => by rw [hskipped l hl]; rfl
  rw [split, hkept, Runs.cut_eq _ hlead hruns]

end Chunk

theorem Backtrace.parse_eq_of_split {d : Dialect} {ls chunks : List Text} {sides : List Sides}
    (hsplit : Chunk.split d ls = chunks)
    (h : List.Forall₂ (fun chunk s => d.isEscape chunk = false ∧ Chunk.sides d chunk = .ok s)
      chunks sides) :
    parse d ls = .ok ⟨link sides.reverse, none⟩ := by
  have hescape : ∀ chunk ∈ chunks, d.isEscape chunk = false := by
    clear hsplit
    induction h with
    | nil => simp
    | cons hchunk _ ih => exact List.forall_mem_cons.2 ⟨hchunk.1, ih⟩
  have hkept : chunks.filter (!d.isEscape ·) = chunks :=
    List.filter_eq_self.2 fun chunk hchunk => by rw [hescape chunk hchunk]; rfl
  have hnotice : chunks.find? d.isEscape = none :=
    List.find?_eq_none.2 fun chunk hchunk => by simp [hescape chunk hchunk]
  refine parse_eq_ok_iff.2 ⟨sides.reverse, ?_, ?_⟩
  · rw [hsplit, hkept, mapM_eq_ok_iff, List.forall₂_reverse_iff]
    exact h.imp fun _ _ hchunk => hchunk.2
  · rw [hsplit, hnotice]
    rfl

/-! ### Lines -/

/-- Whether a line is a text behind blanks. -/
def IsIndented (s line : Text) : Prop := ∃ indent, isBlank indent = true ∧ line = indent ++ s

namespace Dialect

/-- A line without boundary phrases that does not start with the heading opens no chunk. -/
theorem isBoundary_eq_false {d : Dialect} {line : Text}
    (hphrases : ∀ w ∈ d.boundaryPhrases, ¬ w <:+: line)
    (hheading : ¬ d.boundaryHeading <+: line.trimStart) : d.isBoundary line = false := by
  have hincludes : line.includesAny d.boundaryPhrases = false :=
    includesAny_eq_false_iff.2 hphrases
  have hafter : line.trimStart.after? d.boundaryHeading = none := by
    cases hafter : line.trimStart.after? d.boundaryHeading with
    | none => rfl
    | some r => exact absurd ⟨r, eq_append_of_after? hafter⟩ hheading
  rw [isBoundary, isHeading, hincludes, hafter]
  rfl

theorem isBoundary_of_infix {d : Dialect} {line w : Text} (hw : w ∈ d.boundaryPhrases)
    (h : w <:+: line) : d.isBoundary line = true := by
  rw [isBoundary, Bool.or_eq_true]
  exact .inl (List.any_eq_true.2 ⟨w, hw, includes_iff.2 h⟩)

theorem isBoundary_indented {s line : Text} (h : IsIndented s line) (htrimmed : IsTrimmed s)
    (hphrases : ∀ w ∈ ocaml4.boundaryPhrases, ¬ w <:+: s)
    (hheading : ¬ ocaml4.boundaryHeading <+: s) : ocaml4.isBoundary line = false := by
  obtain ⟨indent, hindent, rfl⟩ := h
  apply isBoundary_eq_false
  · intro w hw hoccurs
    have hmem : w ∈ ocaml4.phrases := by
      simp [phrases, hw]
    exact hphrases w hw (infix_of_infix_blank_append (isPhrase_of_mem_phrases hmem) hindent hoccurs)
  · rwa [trimStart_append hindent, trimStart_eq_self htrimmed.1]

end Dialect

theorem IsPlain.isBoundary {s line : Text} (h : IsPlain s) (hline : IsIndented s line) :
    Dialect.ocaml4.isBoundary line = false := by
  apply Dialect.isBoundary_indented hline h.trimmed
  · intro w hw
    exact h.phrases w (by simp [Dialect.phrases, hw])
  · intro hstarts
    exact h.phrases "Type".toList (by decide) hstarts.isInfix

/-! ### Levels -/

theorem Wording.isWording (w : Wording) : IsWording w.label w.connective := by
  cases w <;> decide +kernel

theorem Wording.eq_values {w : Wording} (h : w.isInline = false) : w = values := by
  cases w with
  | plainType => cases h
  | definiteType => cases h
  | values => rfl

namespace Level

/-- Whether lines are those of a level, each behind blanks. -/
def IsPrinted (l : Level) (ls : List Text) : Prop := List.Forall₂ IsIndented l.lines ls

variable {l : Level} {ls : List Text}

theorem exists_of_isPrinted_inline (h : l.IsPrinted ls) (hinline : l.wording.isInline = true) :
    ∃ indent, isBlank indent = true ∧
      ls = [indent ++ (l.wording.label ++ ' ' :: l.sides.implementation ++
        ' ' :: l.wording.connective ++ ' ' :: l.sides.interface)] := by
  rw [IsPrinted, lines, if_pos hinline, List.forall₂_cons_left_iff] at h
  obtain ⟨line, rest, ⟨indent, hindent, rfl⟩, hrest, rfl⟩ := h
  rw [List.forall₂_nil_left_iff.1 hrest]
  exact ⟨indent, hindent, rfl⟩

theorem exists_of_isPrinted_block (h : l.IsPrinted ls) (hinline : l.wording.isInline = false) :
    ∃ line₁ line₂ line₃ line₄, ls = [line₁, line₂, line₃, line₄] ∧
      IsIndented l.wording.label line₁ ∧ IsIndented l.sides.implementation line₂ ∧
      IsIndented l.wording.connective line₃ ∧ IsIndented l.sides.interface line₄ := by
  rw [IsPrinted, lines, if_neg (by simp [hinline])] at h
  simp only [List.forall₂_cons_left_iff, List.forall₂_nil_left_iff] at h
  obtain ⟨line₁, _, h₁, ⟨line₂, _, h₂, ⟨line₃, _, h₃, ⟨line₄, _, h₄, rfl, rfl⟩, rfl⟩, rfl⟩,
    rfl⟩ := h
  exact ⟨line₁, line₂, line₃, line₄, rfl, h₁, h₂, h₃, h₄⟩

theorem exists_spacing (h : l.IsPrinted ls) :
    ∃ g : Spacing, Chunk.ofLines ls = g.chunk l.wording.label l.wording.connective l.sides := by
  have hfeed : IsGap ['\n'] := .feed [] rfl
  cases hinline : l.wording.isInline with
  | true =>
      obtain ⟨indent, hindent, rfl⟩ := exists_of_isPrinted_inline h hinline
      refine ⟨⟨indent, [' '], [' '], [' '], ['\n'], hindent, .space, .space, .space, hfeed⟩, ?_⟩
      simp [Chunk.ofLines, Spacing.chunk]
  | false =>
      obtain ⟨_, _, _, _, rfl, ⟨indent₁, h₁, rfl⟩, ⟨indent₂, h₂, rfl⟩, ⟨indent₃, h₃, rfl⟩,
        ⟨indent₄, h₄, rfl⟩⟩ := exists_of_isPrinted_block h hinline
      refine ⟨⟨indent₁, '\n' :: indent₂, '\n' :: indent₃, '\n' :: indent₄, ['\n'], h₁,
        .feed _ h₂, .feed _ h₃, .feed _ h₄, hfeed⟩, ?_⟩
      simp [Chunk.ofLines, Spacing.chunk]

theorem isWorded (h : l.IsPrinted ls) (hplain : l.sides.IsPlain) : Chunk.IsWorded ls l.sides := by
  obtain ⟨g, hchunk⟩ := exists_spacing h
  exact ⟨⟨g, _, _, l.wording.isWording, hchunk⟩, hplain⟩

theorem isBoundary_label (w : Wording) {indent : Text} (hindent : isBlank indent = true) {s : Text}
    (hs : Dialect.endsWord s = true) :
    Dialect.ocaml4.isBoundary (indent ++ (w.label ++ s)) = true := by
  cases w with
  | plainType =>
      have hheading : Dialect.ocaml4.isHeading (indent ++ ("Type".toList ++ s)) = true := by
        have htrim : trimStart ("Type".toList ++ s) = "Type".toList ++ s :=
          trimStart_eq_self fun c hc => by cases hc; decide
        have hafter : after? ("Type".toList ++ s) Dialect.ocaml4.boundaryHeading = some s :=
          after?_append _ s
        rw [Dialect.isHeading, trimStart_append hindent, htrim, hafter]
        exact hs
      rw [Dialect.isBoundary, Bool.or_eq_true]
      exact .inr hheading
  | definiteType =>
      refine Dialect.isBoundary_of_infix (w := "The type".toList) (by decide) ?_
      exact ⟨indent, s, List.append_assoc _ _ _⟩
  | values =>
      refine Dialect.isBoundary_of_infix (w := "Values do not match:".toList) (by decide) ?_
      exact ⟨indent, s, List.append_assoc _ _ _⟩

/-- A printed level opens with a boundary line and has no other. -/
theorem exists_cons (h : l.IsPrinted ls) (hplain : l.sides.IsPlain) :
    ∃ first rest, ls = first :: rest ∧ Dialect.ocaml4.isBoundary first = true ∧
      ∀ line ∈ rest, Dialect.ocaml4.isBoundary line = false := by
  cases hinline : l.wording.isInline with
  | true =>
      obtain ⟨indent, hindent, rfl⟩ := exists_of_isPrinted_inline h hinline
      refine ⟨_, [], rfl, ?_, by simp⟩
      simp only [List.append_assoc]
      exact isBoundary_label l.wording hindent rfl
  | false =>
      obtain ⟨_, _, _, _, rfl, ⟨indent, hindent, rfl⟩, himplementation, hconnective, hinterface⟩ :=
        exists_of_isPrinted_block h hinline
      refine ⟨_, _, rfl, ?_, ?_⟩
      · have hlabel := isBoundary_label l.wording hindent (s := []) rfl
        rwa [List.append_nil] at hlabel
      · simp only [List.forall_mem_cons]
        refine ⟨hplain.implementation.isBoundary himplementation, ?_,
          hplain.interface.isBoundary hinterface, by simp⟩
        rw [Wording.eq_values hinline] at hconnective
        exact Dialect.isBoundary_indented hconnective (by decide) (by decide) (by decide)

end Level

/-! ### Backtraces -/

section

variable {levels : List Level} {runs : List (List Text)}

/-- Printed levels with plain sides are runs that are worded mismatches. -/
theorem exists_of_mem_runs (hprinted : List.Forall₂ Level.IsPrinted levels runs)
    (hplain : ∀ l ∈ levels, l.sides.IsPlain) {run : List Text} (hrun : run ∈ runs) :
    ∃ l : Level, l.IsPrinted run ∧ l.sides.IsPlain := by
  obtain ⟨l, hl, hrun⟩ := exists_of_mem_right hprinted hrun
  exact ⟨l, hrun, hplain l hl⟩

theorem forall₂_ofLines (hprinted : List.Forall₂ Level.IsPrinted levels runs)
    (hplain : ∀ l ∈ levels, l.sides.IsPlain) :
    List.Forall₂ (fun chunk s => Dialect.ocaml4.isEscape chunk = false ∧
      Chunk.sides .ocaml4 chunk = .ok s) (runs.map Chunk.ofLines) (levels.map (·.sides)) := by
  rw [List.forall₂_map_left_iff, List.forall₂_map_right_iff]
  induction hprinted with
  | nil => exact .nil
  | cons hl _ ih =>
      rw [List.forall_mem_cons] at hplain
      have hworded := Level.isWorded hl hplain.1
      exact .cons ⟨hworded.isEscape, hworded.sides_eq⟩ (ih hplain.2)

/-- The chunks of printed levels behind a lead are the lead and the levels. -/
theorem split_levels {lead : List Text} (hskipped : ∀ l ∈ lead, Dialect.ocaml4.isSkipped l = false)
    (hlead : ∀ l ∈ lead, Dialect.ocaml4.isBoundary l = false)
    (hprinted : List.Forall₂ Level.IsPrinted levels runs)
    (hplain : ∀ l ∈ levels, l.sides.IsPlain) :
    Chunk.split .ocaml4 (lead ++ runs.flatten) =
      [Chunk.ofLines lead].filter (!Text.isBlank ·) ++ runs.map Chunk.ofLines := by
  have hkept : (runs.map Chunk.ofLines).filter (!Text.isBlank ·) = runs.map Chunk.ofLines := by
    rw [List.filter_eq_self, List.forall_mem_map]
    intro run hrun
    obtain ⟨l, hl, hsides⟩ := exists_of_mem_runs hprinted hplain hrun
    rw [(Level.isWorded hl hsides).isBlank]
    rfl
  rw [Chunk.split_runs ?_ hlead ?_, List.map_cons, ← List.singleton_append, List.filter_append,
    hkept]
  · rw [List.forall_mem_append]
    refine ⟨hskipped, fun l hl => ?_⟩
    obtain ⟨run, hrun, hl⟩ := List.mem_flatten.1 hl
    obtain ⟨level, hlevel, hsides⟩ := exists_of_mem_runs hprinted hplain hrun
    exact (Level.isWorded hlevel hsides).isSkipped hl
  · intro run hrun
    obtain ⟨l, hl, hsides⟩ := exists_of_mem_runs hprinted hplain hrun
    exact Level.exists_cons hl hsides

namespace Backtrace

theorem parse_levels (hprinted : List.Forall₂ Level.IsPrinted levels runs)
    (hplain : ∀ l ∈ levels, l.sides.IsPlain) :
    parse .ocaml4 runs.flatten = .ok ⟨link (levels.map (·.sides)).reverse, none⟩ := by
  have habsent (p : Text → Prop) : ∀ l ∈ ([] : List Text), p l := by simp
  have hsplit := split_levels (habsent _) (habsent _) hprinted hplain
  exact parse_eq_of_split hsplit (forall₂_ofLines hprinted hplain)

theorem parse_root_levels {lead : List Text} {root : Sides} (hroot : Chunk.IsWorded lead root)
    (hlead : ∀ l ∈ lead, Dialect.ocaml4.isBoundary l = false)
    (hprinted : List.Forall₂ Level.IsPrinted levels runs)
    (hplain : ∀ l ∈ levels, l.sides.IsPlain) :
    parse .ocaml4 (lead ++ runs.flatten) =
      .ok ⟨link ((levels.map (·.sides)).reverse ++ [root]), none⟩ := by
  have hsplit := split_levels (fun l hl => hroot.isSkipped hl) hlead hprinted hplain
  have hkept : [Chunk.ofLines lead].filter (!Text.isBlank ·) = [Chunk.ofLines lead] := by
    simp [hroot.isBlank]
  rw [hkept] at hsplit
  have hchunks := forall₂_ofLines hprinted hplain
  have hparse := parse_eq_of_split hsplit (.cons ⟨hroot.isEscape, hroot.sides_eq⟩ hchunks)
  rwa [List.reverse_cons] at hparse

end Backtrace

end

end TypeReport
