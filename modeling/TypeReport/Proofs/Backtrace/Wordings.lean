import TypeReport.Backtrace.Chunk
import TypeReport.Proofs.Text.Phrases

/-! # Worded mismatches taken apart

A mismatch is worded with a label in front of its first side and a connective between the
sides, with gaps around the sides that may be line ends (`Spacing.chunk`).  The sides are
got back from that (`sides_chunk`) when they are plain, that is when no phrase of the
dialect is in them.  The point is that no phrase then comes about where a side meets the
wording: the wordings are clear of all phrases that are looked for before the connective
(`IsWording`), which is a matter of finitely many comparisons. -/

namespace TypeReport

open Text

/-- All phrases that a dialect looks for inside a text or in front of one. -/
def Dialect.phrases (d : Dialect) : List Text :=
  d.boundaryPhrases ++ d.skippedPhrases ++ d.connectives ++ d.escapePhrases ++ d.labels

/-- What turns the label of a type into the label of its declarations. -/
def declarations : Text := "declarations do not match:".toList

/-- Whether a text can be a side of a mismatch and will not be taken for a part of its wording. -/
structure IsPlain (s : Text) : Prop where
  ne_nil : s ≠ []
  trimmed : IsTrimmed s
  phrases : ∀ w ∈ Dialect.ocaml4.phrases, ¬ w <:+: s
  -- so that a shorter label does not go on to a longer one
  declarations : ¬ declarations <+: s
  location : ¬ Dialect.ocaml4.locationOpening <+: s

instance (s : Text) : Decidable (IsPlain s) :=
  decidable_of_iff
    (s ≠ [] ∧ IsTrimmed s ∧ (∀ w ∈ Dialect.ocaml4.phrases, ¬ w <:+: s) ∧
      ¬ TypeReport.declarations <+: s ∧ ¬ Dialect.ocaml4.locationOpening <+: s)
    ⟨fun ⟨h₁, h₂, h₃, h₄, h₅⟩ => ⟨h₁, h₂, h₃, h₄, h₅⟩,
      fun h => ⟨h.1, h.2, h.3, h.4, h.5⟩⟩

structure Sides.IsPlain (s : Sides) : Prop where
  implementation : TypeReport.IsPlain s.implementation
  interface : TypeReport.IsPlain s.interface

/-- The blanks around the parts of a mismatch. -/
structure Spacing where
  indent : Text
  afterLabel : Text
  beforeConnective : Text
  afterConnective : Text
  atEnd : Text
  isBlank_indent : indent.isBlank = true
  isGap_afterLabel : IsGap afterLabel
  isGap_beforeConnective : IsGap beforeConnective
  isGap_afterConnective : IsGap afterConnective
  isGap_atEnd : IsGap atEnd

namespace Spacing

/-- The text of a mismatch with a label and a connective. -/
def chunk (g : Spacing) (label connective : Text) (s : Sides) : Text :=
  g.indent ++ (label ++ (g.afterLabel ++ (s.implementation ++ (g.beforeConnective ++
    (connective ++ (g.afterConnective ++ (s.interface ++ g.atEnd)))))))

/-- What stands before the connective. -/
def before (g : Spacing) (label : Text) (s : Sides) : Text :=
  g.indent ++ (label ++ (g.afterLabel ++ (s.implementation ++ g.beforeConnective)))

/-- What stands behind the connective. -/
def behind (g : Spacing) (s : Sides) : Text := g.afterConnective ++ (s.interface ++ g.atEnd)

theorem chunk_eq (g : Spacing) (label connective : Text) (s : Sides) :
    g.chunk label connective s = g.before label s ++ connective ++ g.behind s := by
  simp only [chunk, before, behind, List.append_assoc]

end Spacing

/-! ### Wordings -/

/-- Whether a label and a connective are such that a mismatch worded with them is taken apart at
that connective and with that label. -/
structure IsWording (label connective : Text) : Prop where
  isPhrase_label : IsPhrase label
  isPhrase_connective : IsPhrase connective
  mem_labels : label ∈ Dialect.ocaml4.labels
  labels : ∀ v ∈ Dialect.ocaml4.labels.takeWhile (· ≠ label),
    ¬ v <+: label ∧ (label <+: v → v = label ++ ' ' :: declarations)
  mem_connectives : connective ∈ Dialect.ocaml4.connectives
  connectives : ∀ v ∈ Dialect.ocaml4.connectives.takeWhile (· ≠ connective),
    v.IsClearOf label ∧ v.IsClearOf connective
  -- the connective comes about nowhere but at its own place
  first : connective.IsClearOf label ∧ connective.IsClearOf connective.dropLast
  others : ∀ v ∈ Dialect.ocaml4.skippedPhrases ++ Dialect.ocaml4.escapePhrases,
    v.IsClearOf label ∧ v.IsClearOf connective

instance (label connective : Text) : Decidable (IsWording label connective) :=
  decidable_of_iff
    (IsPhrase label ∧ IsPhrase connective ∧ Dialect.ocaml4.labels.any (· = label) = true ∧
      (∀ v ∈ Dialect.ocaml4.labels.takeWhile (· ≠ label),
        ¬ v <+: label ∧ (label <+: v → v = label ++ ' ' :: declarations)) ∧
      Dialect.ocaml4.connectives.any (· = connective) = true ∧
      (∀ v ∈ Dialect.ocaml4.connectives.takeWhile (· ≠ connective),
        v.IsClearOf label ∧ v.IsClearOf connective) ∧
      (connective.IsClearOf label ∧ connective.IsClearOf connective.dropLast) ∧
      ∀ v ∈ Dialect.ocaml4.skippedPhrases ++ Dialect.ocaml4.escapePhrases,
        v.IsClearOf label ∧ v.IsClearOf connective)
    ⟨fun ⟨h₁, h₂, h₃, h₄, h₅, h₆, h₇, h₈⟩ =>
        ⟨h₁, h₂, by simpa using h₃, h₄, by simpa using h₅, h₆, h₇, h₈⟩,
      fun h => ⟨h.1, h.2, by simpa using h.3, h.4, by simpa using h.5, h.6, h.7, h.8⟩⟩

example : IsWording "The type".toList "is not compatible with the type".toList := by decide +kernel

theorem isPhrase_of_mem_phrases {w : Text} (h : w ∈ Dialect.ocaml4.phrases) : IsPhrase w := by
  have hall : ∀ w ∈ Dialect.ocaml4.phrases, IsPhrase w := by decide +kernel
  exact hall w h

theorem exists_takeWhile_ne_append {l : List Text} {w : Text} (h : w ∈ l) :
    ∃ rest, l = l.takeWhile (· ≠ w) ++ w :: rest := by
  induction l with
  | nil => cases h
  | cons v l ih =>
      by_cases hv : v = w
      · refine ⟨l, ?_⟩
        rw [List.takeWhile_cons_of_neg (by simpa using hv), hv, List.nil_append]
      · obtain ⟨rest, hrest⟩ := ih ((List.mem_cons.1 h).resolve_left (Ne.symm hv))
        refine ⟨rest, ?_⟩
        rw [List.takeWhile_cons_of_pos (by simpa using hv), List.cons_append, ← hrest]

namespace Spacing

variable (g : Spacing) {label connective : Text} {s : Sides}

/-- A phrase that both parts of the wording are clear of and that neither side holds does not come
about. -/
theorem not_infix_chunk {w : Text} (hw : IsPhrase w) (hlabel : w.IsClearOf label)
    (hconnective : w.IsClearOf connective) (himplementation : ¬ w <:+: s.implementation)
    (hinterface : ¬ w <:+: s.interface) : ¬ w <:+: g.chunk label connective s := by
  intro h
  refine hlabel.not_infix_append hw g.isGap_afterLabel ?_
    (infix_of_infix_blank_append hw g.isBlank_indent h)
  refine hconnective.not_infix_append_append hw g.isGap_beforeConnective himplementation ?_
  refine hconnective.not_infix_append hw g.isGap_afterConnective ?_
  exact not_infix_append_gap_nil hw g.isGap_atEnd hinterface

variable (hwording : IsWording label connective) (hs : s.IsPlain)

include hwording

theorem trimStart_before : (g.before label s).trimStart =
    label ++ (g.afterLabel ++ (s.implementation ++ g.beforeConnective)) := by
  rw [before, trimStart_append g.isBlank_indent]
  apply trimStart_eq_self
  rw [List.head?_append_of_ne_nil _ hwording.isPhrase_label.ne_nil]
  exact hwording.isPhrase_label.trimmed.1

include hs

theorem around?_chunk :
    (g.chunk label connective s).around? connective = some (g.before label s, g.behind s) := by
  have hphrase := hwording.isPhrase_connective
  have hplain : ¬ connective <:+: s.implementation := by
    apply hs.implementation.phrases
    simp [Dialect.phrases, hwording.mem_connectives]
  have hlast : ¬ connective <:+: connective.dropLast ++ [] := by
    rw [List.append_nil]
    exact hwording.first.2.1
  rw [chunk_eq]
  apply around?_eq_some hphrase.ne_nil
  intro h
  simp only [before, List.append_assoc] at h
  refine hwording.first.1.not_infix_append hphrase g.isGap_afterLabel ?_
    (infix_of_infix_blank_append hphrase g.isBlank_indent h)
  have hseam := hwording.first.2.not_infix_append_append hphrase g.isGap_beforeConnective hplain
    hlast
  rwa [List.append_nil] at hseam

theorem atConnective?_chunk : Dialect.ocaml4.atConnective? (g.chunk label connective s) =
    some (g.before label s, connective, g.behind s) := by
  obtain ⟨rest, hrest⟩ := exists_takeWhile_ne_append hwording.mem_connectives
  refine List.findSome?_eq_some_iff.2 ⟨_, connective, rest, hrest, ?_, fun v hv => ?_⟩
  · rw [g.around?_chunk hwording hs]
    rfl
  · obtain ⟨hlabel, hconnective⟩ := hwording.connectives v hv
    have hmem : v ∈ Dialect.ocaml4.phrases := by
      simp [Dialect.phrases, List.takeWhile_subset _ hv]
    rw [Option.map_eq_none_iff, around?_eq_none_iff]
    exact g.not_infix_chunk (isPhrase_of_mem_phrases hmem) hlabel hconnective
      (hs.implementation.phrases v hmem) (hs.interface.phrases v hmem)

theorem not_prefix_before {v : Text} (hv : v ∈ Dialect.ocaml4.labels.takeWhile (· ≠ label)) :
    ¬ v <+: (g.before label s).trimStart := by
  obtain ⟨hshort, hlong⟩ := hwording.labels v hv
  rw [g.trimStart_before hwording]
  intro h
  rcases List.prefix_or_prefix_of_prefix h (List.prefix_append label _) with hstarts | hstarts
  · exact hshort hstarts
  · -- The longer label would go on into the first side.
    have hdeclarations : IsPhrase declarations := by decide
    have hgap := g.isGap_afterLabel
    rw [hlong hstarts, List.prefix_append_right_inj] at h
    generalize g.afterLabel = gap at h hgap
    cases hgap with
    | space =>
        apply hs.implementation.declarations
        apply prefix_of_prefix_append_blank hdeclarations g.isGap_beforeConnective.isBlank
        exact (List.prefix_append_right_inj [' ']).1 h
    | feed indent hindent =>
        obtain ⟨hfeed, -⟩ := List.cons_prefix_cons.1 h
        cases hfeed

theorem stripLabel_before : Dialect.ocaml4.stripLabel (g.before label s) = s.implementation := by
  obtain ⟨rest, hrest⟩ := exists_takeWhile_ne_append hwording.mem_labels
  have hfound : Dialect.ocaml4.labels.findSome? (g.before label s).trimStart.after? =
      some (g.afterLabel ++ (s.implementation ++ g.beforeConnective)) := by
    refine List.findSome?_eq_some_iff.2 ⟨_, label, rest, hrest, ?_, fun v hv => ?_⟩
    · rw [g.trimStart_before hwording, after?_append]
    · cases hafter : (g.before label s).trimStart.after? v with
      | none => rfl
      | some r => exact absurd ⟨r, eq_append_of_after? hafter⟩ (g.not_prefix_before hwording hs hv)
  rw [Dialect.stripLabel, hfound, Option.getD_some, ← List.append_assoc]
  exact trim_append g.isGap_afterLabel.isBlank g.isGap_beforeConnective.isBlank
    hs.implementation.trimmed

/-- The sides of a worded mismatch are got back. -/
theorem sides_chunk : Chunk.sides .ocaml4 (g.chunk label connective s) = .ok s := by
  rw [Chunk.sides, g.atConnective?_chunk hwording hs]
  dsimp only
  rw [g.stripLabel_before hwording hs, behind, ← List.append_assoc,
    trim_append g.isGap_afterConnective.isBlank g.isGap_atEnd.isBlank hs.interface.trimmed]

end Spacing
end TypeReport
