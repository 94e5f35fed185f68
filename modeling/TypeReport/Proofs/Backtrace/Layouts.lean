import TypeReport.Backtrace.Chunk
import TypeReport.Proofs.Text.Phrases

/-! # The layout of a chunk

A chunk names two sides.  Around them stand a label and a connective, and blanks.  The
label is the first of its table in front, if there is one; the connective is the first of
its table that occurs at all, and it is taken where it occurs first (`Layout.Separates`).
Every chunk with a connective has such a layout, and the sides that are read from the chunk
are those that the layout separates (`Chunk.sides_eq_ok_iff`).  A chunk without one is
blamed (`Chunk.sides_eq_error_iff`). -/

namespace TypeReport

open Text

/-! ### Tables -/

/-- Whether a phrase is the first in a table that has a property. -/
def IsFirstIn (table : List Text) (p : Text → Prop) (w : Text) : Prop :=
  ∃ preferred rest, table = preferred ++ w :: rest ∧ p w ∧ ∀ v ∈ preferred, ¬ p v

namespace Dialect

variable {d : Dialect}

theorem isEscape_iff {s : Text} : d.isEscape s = true ↔ ∃ w ∈ d.escapePhrases, w <:+: s := by
  rw [isEscape, includesAny, List.any_eq_true]
  simp only [includes_iff]

theorem atConnective?_eq_none_iff {s : Text} :
    d.atConnective? s = none ↔ ∀ w ∈ d.connectives, ¬ w <:+: s := by
  rw [atConnective?, List.findSome?_eq_none_iff]
  simp only [Option.map_eq_none_iff, around?_eq_none_iff]

theorem atConnective?_eq_some_iff {s a w b : Text} : d.atConnective? s = some (a, w, b) ↔
    IsFirstIn d.connectives (· <:+: s) w ∧ a ++ w ++ b = s ∧
      ∀ a' b', a' ++ w ++ b' = s → a.length ≤ a'.length := by
  simp only [atConnective?, List.findSome?_eq_some_iff, Option.map_eq_some_iff,
    Option.map_eq_none_iff, around?_eq_none_iff, Prod.exists, Prod.mk.injEq, IsFirstIn]
  constructor
  · rintro ⟨preferred, w, rest, htable, ⟨a, b, haround, rfl, rfl, rfl⟩, hpreferred⟩
    exact ⟨⟨preferred, rest, htable, ⟨a, b, eq_append_of_around? haround⟩, hpreferred⟩,
      around?_eq_some_iff.1 haround⟩
  · rintro ⟨⟨preferred, rest, htable, -, hpreferred⟩, hparts⟩
    exact ⟨preferred, w, rest, htable, ⟨a, b, around?_eq_some_iff.2 hparts, rfl, rfl, rfl⟩,
      hpreferred⟩

/-- Whether `label` is the label that is taken off a text: the first of the table that the text
starts with, or nothing if it starts with none. -/
def TakesOff (d : Dialect) (s label : Text) : Prop :=
  IsFirstIn d.labels (· <+: s) label ∨ label = [] ∧ ∀ w ∈ d.labels, ¬ w <+: s

theorem findSome?_after?_eq_some_iff {table : List Text} {s r : Text} :
    table.findSome? s.after? = some r ↔ ∃ w, IsFirstIn table (· <+: s) w ∧ s = w ++ r := by
  simp only [List.findSome?_eq_some_iff, after?_eq_some_iff, after?_eq_none_iff, IsFirstIn]
  constructor
  · rintro ⟨preferred, w, rest, htable, rfl, hpreferred⟩
    exact ⟨w, ⟨preferred, rest, htable, List.prefix_append w r, hpreferred⟩, rfl⟩
  · rintro ⟨w, ⟨preferred, rest, htable, -, hpreferred⟩, hs⟩
    exact ⟨preferred, w, rest, htable, hs, hpreferred⟩

theorem findSome?_after?_eq_none_iff {table : List Text} {s : Text} :
    table.findSome? s.after? = none ↔ ∀ w ∈ table, ¬ w <+: s := by
  simp only [List.findSome?_eq_none_iff, after?_eq_none_iff]

/-- Whether a text that is put together from these parts is `t` once the label is taken off. -/
structure Strips (d : Dialect) (indent label afterLabel t atEnd : Text) : Prop where
  indent : indent.isBlank = true
  start : ∀ c ∈ (label ++ (afterLabel ++ t ++ atEnd)).head?, isBlankChar c = false
  label : d.TakesOff (label ++ (afterLabel ++ t ++ atEnd)) label
  afterLabel : afterLabel.isBlank = true
  trimmed : IsTrimmed t
  atEnd : atEnd.isBlank = true

theorem stripLabel_eq_iff {s t : Text} : d.stripLabel s = t ↔
    ∃ indent label afterLabel atEnd, d.Strips indent label afterLabel t atEnd ∧
      indent ++ (label ++ (afterLabel ++ t ++ atEnd)) = s := by
  constructor
  · rintro rfl
    obtain ⟨indent, hindent, hs⟩ := exists_append_trimStart s
    obtain ⟨label, rest, hlabel, hrest, hstrip⟩ : ∃ label rest, d.TakesOff s.trimStart label ∧
        s.trimStart = label ++ rest ∧ d.stripLabel s = rest.trim := by
      unfold stripLabel
      cases hfound : d.labels.findSome? s.trimStart.after? with
      | none => exact ⟨[], _, .inr ⟨rfl, findSome?_after?_eq_none_iff.1 hfound⟩, rfl, rfl⟩
      | some rest =>
          obtain ⟨label, hlabel, hrest⟩ := findSome?_after?_eq_some_iff.1 hfound
          exact ⟨label, rest, .inl hlabel, hrest, rfl⟩
    obtain ⟨a, b, ha, hb, hparts⟩ := exists_append_trim_append rest
    rw [← hstrip] at hparts
    have hjoin : label ++ (a ++ d.stripLabel s ++ b) = s.trimStart := by rw [← hparts, hrest]
    refine ⟨indent, label, a, b, ⟨hindent, ?_, ?_, ha, ?_, hb⟩, ?_⟩
    · rw [hjoin]
      exact fun c hc => isBlankChar_of_head?_trimStart hc
    · rwa [hjoin]
    · rw [hstrip]
      exact isTrimmed_trim rest
    · rw [hjoin, ← hs]
  · rintro ⟨indent, label, afterLabel, atEnd, h, rfl⟩
    have hstart : trimStart (indent ++ (label ++ (afterLabel ++ t ++ atEnd))) =
        label ++ (afterLabel ++ t ++ atEnd) := by
      rw [trimStart_append h.indent, trimStart_eq_self h.start]
    have htrim := trim_append h.afterLabel h.atEnd h.trimmed
    rw [stripLabel, hstart]
    rcases h.label with hlabel | ⟨rfl, hnone⟩
    · rw [findSome?_after?_eq_some_iff.2 ⟨label, hlabel, rfl⟩, Option.getD_some, htrim]
    · rw [findSome?_after?_eq_none_iff.2 hnone, Option.getD_none, List.nil_append, htrim]

end Dialect

/-! ### Layouts -/

/-- What stands around the two sides of a mismatch. -/
structure Layout where
  indent : Text
  label : Text
  afterLabel : Text
  beforeConnective : Text
  connective : Text
  afterConnective : Text
  atEnd : Text

namespace Layout

/-- What stands before the connective. -/
def left (l : Layout) (s : Sides) : Text :=
  l.indent ++ (l.label ++ (l.afterLabel ++ s.implementation ++ l.beforeConnective))

/-- What stands behind the connective. -/
def right (l : Layout) (s : Sides) : Text := l.afterConnective ++ s.interface ++ l.atEnd

def text (l : Layout) (s : Sides) : Text := l.left s ++ l.connective ++ l.right s

/-- Whether two sides are told apart in a layout by the tables of a dialect: at the first place of
the connective that is preferred, with only blanks, and a label in front, around the sides. -/
structure Separates (d : Dialect) (l : Layout) (s : Sides) : Prop where
  connective : IsFirstIn d.connectives (· <:+: l.text s) l.connective
  earliest : ∀ a b, a ++ l.connective ++ b = l.text s → (l.left s).length ≤ a.length
  left : d.Strips l.indent l.label l.afterLabel s.implementation l.beforeConnective
  afterConnective : l.afterConnective.isBlank = true
  trimmed : IsTrimmed s.interface
  atEnd : l.atEnd.isBlank = true

end Layout

namespace Chunk

variable {d : Dialect}

/-- The sides of a chunk are those that some layout separates. -/
theorem sides_eq_ok_iff {chunk : Text} {s : Sides} :
    sides d chunk = .ok s ↔ ∃ l : Layout, l.Separates d s ∧ l.text s = chunk := by
  constructor
  · intro h
    unfold sides at h
    split at h
    case h_2 => cases h
    case h_1 before w behind hfound =>
      obtain ⟨hfirst, rfl, hearliest⟩ := Dialect.atConnective?_eq_some_iff.1 hfound
      obtain ⟨indent, label, a, b, hstrips, hbefore⟩ :=
        Dialect.stripLabel_eq_iff.1 (Eq.refl (d.stripLabel before))
      obtain ⟨a', b', ha', hb', hbehind⟩ := exists_append_trim_append behind
      cases h
      have hleft : Layout.left ⟨indent, label, a, b, w, a', b'⟩
          ⟨d.stripLabel before, behind.trim⟩ = before := hbefore
      have htext : Layout.text ⟨indent, label, a, b, w, a', b'⟩
          ⟨d.stripLabel before, behind.trim⟩ = before ++ w ++ behind := by
        rw [Layout.text, hleft, Layout.right, ← hbehind]
      refine ⟨_, ⟨?_, ?_, hstrips, ha', isTrimmed_trim behind, hb'⟩, htext⟩
      · rwa [htext]
      · rwa [htext, hleft]
  · rintro ⟨l, h, rfl⟩
    have hfound : d.atConnective? (l.text s) = some (l.left s, l.connective, l.right s) :=
      Dialect.atConnective?_eq_some_iff.2 ⟨h.connective, rfl, h.earliest⟩
    have himplementation : d.stripLabel (l.left s) = s.implementation :=
      Dialect.stripLabel_eq_iff.2 ⟨_, _, _, _, h.left, rfl⟩
    have hinterface : (l.right s).trim = s.interface :=
      trim_append h.afterConnective h.atEnd h.trimmed
    simp only [sides, hfound, himplementation, hinterface]

theorem sides_eq_error_iff {chunk : Text} {e : Failure} : sides d chunk = .error e ↔
    (∀ w ∈ d.connectives, ¬ w <:+: chunk) ∧ e = .unrecognizedConnective chunk.trim := by
  rw [← Dialect.atConnective?_eq_none_iff, sides]
  cases d.atConnective? chunk with
  | none => simp [eq_comm]
  | some p => simp

theorem exists_sides_iff {chunk : Text} :
    (∃ s, sides d chunk = .ok s) ↔ ∃ w ∈ d.connectives, w <:+: chunk := by
  have hnone := Dialect.atConnective?_eq_none_iff (d := d) (s := chunk)
  rw [sides]
  cases hfound : d.atConnective? chunk with
  | none => simpa using hnone.1 hfound
  | some p =>
      rw [hfound] at hnone
      simpa using hnone

end Chunk

end TypeReport
