import TypeReport.Diagnostic.Body
import TypeReport.Proofs.Backtrace.Levels
import TypeReport.Proofs.Location.Printer

/-! # Printed mismatches read back

The body of a mismatch that is printed from its levels is read back as these levels.  For
an expression the description and the line behind it are a worded mismatch of their own,
the root, which opens no chunk (`isWorded_root`, `isBoundary_root`).  For an interface the
levels run up to the two references, since a plain side does not look like one
(`Level.isReference`).  Both cases are `parse_mismatch`. -/

namespace TypeReport

open Text

/-! ### References -/

namespace Dialect

theorem isReference_indented {s line : Text} (h : IsIndented s line)
    (hhead : ∀ c ∈ s.head?, isBlankChar c = false) :
    ocaml4.isReference line = s.startsWith ocaml4.locationOpening := by
  obtain ⟨indent, hindent, rfl⟩ := h
  rw [isReference, trimStart_append hindent, trimStart_eq_self hhead]

end Dialect

theorem IsPlain.isReference {s line : Text} (h : IsPlain s) (hline : IsIndented s line) :
    Dialect.ocaml4.isReference line = false := by
  rw [Dialect.isReference_indented hline h.trimmed.1, Bool.eq_false_iff, ne_eq, startsWith_iff]
  exact h.location

namespace Wording

theorem isReference_label (w : Wording) {s line : Text} (h : IsIndented (w.label ++ s) line) :
    Dialect.ocaml4.isReference line = false := by
  have hhead : ∀ c ∈ (w.label ++ s).head?, isBlankChar c = false := by
    intro c hc
    cases w <;> cases hc <;> decide
  rw [Dialect.isReference_indented h hhead]
  cases w <;> rfl

end Wording

theorem Level.isReference {l : Level} {ls : List Text} (h : l.IsPrinted ls)
    (hplain : l.sides.IsPlain) : ∀ line ∈ ls, Dialect.ocaml4.isReference line = false := by
  cases hinline : l.wording.isInline with
  | true =>
      obtain ⟨indent, hindent, rfl⟩ := exists_of_isPrinted_inline h hinline
      rw [List.forall_mem_singleton]
      apply l.wording.isReference_label (s := ' ' :: (l.sides.implementation ++
        ' ' :: (l.wording.connective ++ ' ' :: l.sides.interface)))
      exact ⟨indent, hindent, by simp only [List.append_assoc, List.cons_append]⟩
  | false =>
      obtain ⟨_, _, _, _, rfl, hlabel, himplementation, hconnective, hinterface⟩ :=
        exists_of_isPrinted_block h hinline
      rw [← List.append_nil l.wording.label] at hlabel
      simp only [List.forall_mem_cons]
      refine ⟨l.wording.isReference_label hlabel, hplain.implementation.isReference himplementation,
        ?_, hplain.interface.isReference hinterface, by simp⟩
      rw [Wording.eq_values hinline] at hconnective
      rw [Dialect.isReference_indented hconnective fun c hc => by cases hc; decide]
      rfl

namespace Location

theorem isReference_print {l : Location} (h : l.IsPrintable) {line : Text}
    (hline : IsIndented (l.print .ocaml4) line) : Dialect.ocaml4.isReference line = true := by
  rw [Dialect.isReference_indented hline (isTrimmed_print h).1, startsWith_iff]
  simp only [print, List.append_assoc]
  exact List.prefix_append _ _

theorem parse_indented {l : Location} (h : l.IsPrintable) (style : PathStyle) {line : Text}
    (hline : IsIndented (l.print .ocaml4) line) :
    parse .ocaml4 style line = .ok (l.mapPath style) := by
  obtain ⟨indent, hindent, rfl⟩ := hline
  rw [parse, read_print h style hindent]
  rfl

end Location

/-! ### The root of an expression mismatch -/

theorem Kind.description_print {s : Text} (h : IsTrimmed s) :
    description .ocaml4 ("Error: ".toList ++ s) = s := by
  have hafter : after? ("Error: ".toList ++ s) Dialect.ocaml4.errorOpening = some (' ' :: s) :=
    after?_append "Error:".toList (' ' :: s)
  rw [description, hafter]
  exact Location.trim_space_cons h

theorem isWording_root : IsWording "This expression has type".toList
    "but an expression was expected of type".toList := by decide +kernel

section

variable {root : Sides} (hroot : root.IsPlain) {line : Text}
  (hline : IsIndented ("but an expression was expected of type ".toList ++ root.interface) line)

include hline

theorem exists_spacing_root : ∃ g : Spacing,
    Chunk.ofLines ["This expression has type ".toList ++ root.implementation, line] =
      g.chunk "This expression has type".toList "but an expression was expected of type".toList
        root := by
  obtain ⟨indent, hindent, rfl⟩ := hline
  refine ⟨⟨[], [' '], '\n' :: indent, [' '], ['\n'], rfl, .space, .feed _ hindent, .space,
    .feed [] rfl⟩, ?_⟩
  simp [Chunk.ofLines, Spacing.chunk]

include hroot

theorem isWorded_root :
    Chunk.IsWorded ["This expression has type ".toList ++ root.implementation, line] root := by
  obtain ⟨g, hchunk⟩ := exists_spacing_root hline
  exact ⟨⟨g, _, _, isWording_root, hchunk⟩, hroot⟩

theorem isBoundary_root :
    ∀ l ∈ ["This expression has type ".toList ++ root.implementation, line],
      Dialect.ocaml4.isBoundary l = false := by
  have hclear : ∀ w ∈ Dialect.ocaml4.boundaryPhrases, w ∈ Dialect.ocaml4.phrases ∧
      w.IsClearOf "This expression has type".toList ∧
      w.IsClearOf "but an expression was expected of type".toList := by decide +kernel
  obtain ⟨g, hchunk⟩ := exists_spacing_root hline
  obtain ⟨indent, hindent, rfl⟩ := hline
  intro l hl
  apply Dialect.isBoundary_eq_false
  · intro w hw hoccurs
    obtain ⟨hmem, hlabel, hconnective⟩ := hclear w hw
    have hnot := g.not_infix_chunk (isPhrase_of_mem_phrases hmem) hlabel hconnective
      (hroot.implementation.phrases w hmem) (hroot.interface.phrases w hmem)
    rw [← hchunk] at hnot
    exact hnot (hoccurs.trans (Chunk.infix_ofLines hl))
  · simp only [List.mem_cons, List.not_mem_nil, or_false] at hl
    rcases hl with rfl | rfl
    · rw [trimStart_eq_self fun c hc => by cases hc; decide]
      rintro ⟨t, ht⟩
      cases ht
    · rw [trimStart_append hindent, trimStart_eq_self fun c hc => by cases hc; decide]
      rintro ⟨t, ht⟩
      cases ht

theorem Kind.parse_expression (style : PathStyle) {levels : List Level} {runs : List (List Text)}
    (hprinted : List.Forall₂ Level.IsPrinted levels runs)
    (hplain : ∀ l ∈ levels, l.sides.IsPlain) :
    parse .ocaml4 style ("Error: This expression has type ".toList ++ root.implementation)
        (line :: runs.flatten) =
      .ok (.expressionMismatch ("This expression has type ".toList ++ root.implementation)
        ⟨Backtrace.link ((levels.map (·.sides)).reverse ++ [root]), none⟩) := by
  have htrimmed : IsTrimmed ("This expression has type".toList ++ [' '] ++ root.implementation) :=
    isTrimmed_append (by decide) hroot.implementation.trimmed (by decide)
      hroot.implementation.ne_nil [' ']
  have hdescription : description .ocaml4
      ("Error: This expression has type ".toList ++ root.implementation) =
        "This expression has type ".toList ++ root.implementation := description_print htrimmed
  have hopening : startsWith ("This expression has type ".toList ++ root.implementation)
      Dialect.ocaml4.expressionOpening = true := rfl
  have hbacktrace := Backtrace.parse_root_levels (isWorded_root hroot hline)
    (isBoundary_root hroot hline) hprinted hplain
  rw [List.cons_append, List.singleton_append] at hbacktrace
  simp only [parse, hdescription, hopening, if_true, hbacktrace]
  rfl

end

/-! ### Interface mismatches -/

section

variable {levels : List Level} {runs : List (List Text)}

/-- The lines of printed levels start with a boundary line, if there are any. -/
theorem dropWhile_runs (hprinted : List.Forall₂ Level.IsPrinted levels runs)
    (hplain : ∀ l ∈ levels, l.sides.IsPlain) :
    runs.flatten.dropWhile (!Dialect.ocaml4.isBoundary ·) = runs.flatten := by
  cases hruns : runs with
  | nil => rfl
  | cons run rest =>
      have hmem : run ∈ runs := by simp [hruns]
      obtain ⟨l, hl, hsides⟩ := exists_of_mem_runs hprinted hplain hmem
      obtain ⟨first, others, rfl, hboundary, -⟩ := Level.exists_cons hl hsides
      rw [List.flatten_cons, List.cons_append, List.dropWhile_cons_of_neg]
      simp [hboundary]

theorem Kind.parse_interface (style : PathStyle)
    (hprinted : List.Forall₂ Level.IsPrinted levels runs)
    (hplain : ∀ l ∈ levels, l.sides.IsPlain) (more : Text) {expected actual : Location}
    (hexpected : expected.IsPrintable) (hactual : actual.IsPrintable) {line₁ line₂ : Text}
    (hline₁ : IsIndented (expected.print .ocaml4) line₁)
    (hline₂ : IsIndented (actual.print .ocaml4) line₂) :
    parse .ocaml4 style ("Error: The implementation".toList ++ more ++ [':'])
        (runs.flatten ++ [line₁, line₂]) =
      .ok (.interfaceMismatch ("The implementation".toList ++ more ++ [':'])
        (some (actual.mapPath style)) (some (expected.mapPath style))
        ⟨Backtrace.link (levels.map (·.sides)).reverse, none⟩) := by
  have hlevels : ∀ l ∈ runs.flatten, Dialect.ocaml4.isReference l = false := by
    intro l hl
    obtain ⟨run, hrun, hl⟩ := List.mem_flatten.1 hl
    obtain ⟨level, hlevel, hsides⟩ := exists_of_mem_runs hprinted hplain hrun
    exact Level.isReference hlevel hsides l hl
  have hreference₁ := Location.isReference_print hexpected hline₁
  have hreference₂ := Location.isReference_print hactual hline₂
  have hbody : (runs.flatten ++ [line₁, line₂]).takeWhile (!Dialect.ocaml4.isReference ·) =
      runs.flatten :=
    takeWhile_append_cons (fun l hl => by rw [hlevels l hl]; rfl) (by simpa using hreference₁)
  have hreferences : (runs.flatten ++ [line₁, line₂]).filter Dialect.ocaml4.isReference =
      [line₁, line₂] := by
    rw [List.filter_append, List.filter_eq_nil_iff.2 fun l hl => by simp [hlevels l hl]]
    simp [hreference₁, hreference₂]
  have htrimmed : IsTrimmed ("The implementation".toList ++ more ++ [':']) :=
    isTrimmed_append (by decide) (by decide) (by decide) (by decide) more
  have hdescription : description .ocaml4 ("Error: The implementation".toList ++ more ++ [':']) =
      "The implementation".toList ++ more ++ [':'] := description_print htrimmed
  have hexpression : startsWith ("The implementation".toList ++ more ++ [':'])
      Dialect.ocaml4.expressionOpening = false := rfl
  have hinterface : startsWith ("The implementation".toList ++ more ++ [':'])
      Dialect.ocaml4.interfaceOpening = true :=
    startsWith_iff.2 ⟨more ++ [':'], (List.append_assoc _ _ _).symm⟩
  have hcolon : hasColon ("The implementation".toList ++ more ++ [':']) = true := by
    simp [hasColon]
  simp only [parse, hdescription, hexpression, hinterface, hcolon, if_true, Bool.false_eq_true,
    if_false, parseInterface, hbody, hreferences, dropWhile_runs hprinted hplain,
    Backtrace.parse_levels hprinted hplain, List.getElem?_cons_zero, List.getElem?_cons_succ,
    Option.mapM_some, Location.parse_indented hexpected style hline₁,
    Location.parse_indented hactual style hline₂]
  rfl

/-- The body of a mismatch is read back from its printed levels, whatever blanks stand before their
lines.  Behind the root of an expression mismatch, and in front of the references of an interface
mismatch, they are the frames in reverse order, and there is no notice. -/
theorem Kind.parse_mismatch (style : PathStyle)
    (hprinted : List.Forall₂ Level.IsPrinted levels runs)
    (hplain : ∀ l ∈ levels, l.sides.IsPlain) :
    (∀ (root : Sides) (line : Text), root.IsPlain →
      IsIndented ("but an expression was expected of type ".toList ++ root.interface) line →
      ∃ frames : List Frame,
        parse .ocaml4 style ("Error: This expression has type ".toList ++ root.implementation)
            (line :: runs.flatten) =
          .ok (.expressionMismatch ("This expression has type ".toList ++ root.implementation)
            ⟨frames, none⟩) ∧
        frames.map (·.toSides) = (levels.map (·.sides)).reverse ++ [root]) ∧
    ∀ (more : Text) (expected actual : Location) (line₁ line₂ : Text),
      expected.IsPrintable → actual.IsPrintable →
      IsIndented (expected.print .ocaml4) line₁ → IsIndented (actual.print .ocaml4) line₂ →
      ∃ frames : List Frame,
        parse .ocaml4 style ("Error: The implementation".toList ++ more ++ [':'])
            (runs.flatten ++ [line₁, line₂]) =
          .ok (.interfaceMismatch ("The implementation".toList ++ more ++ [':'])
            (some (actual.mapPath style)) (some (expected.mapPath style)) ⟨frames, none⟩) ∧
        frames.map (·.toSides) = (levels.map (·.sides)).reverse := by
  constructor
  · intro root line hroot hline
    exact ⟨_, parse_expression hroot hline style hprinted hplain, Backtrace.toSides_link _⟩
  · intro more expected actual line₁ line₂ hexpected hactual hline₁ hline₂
    exact ⟨_, parse_interface style hprinted hplain more hexpected hactual hline₁ hline₂,
      Backtrace.toSides_link _⟩

/-- Two levels, the second of which takes four lines. -/
theorem Kind.parse_mismatch_two_levels :
    (∃ frames : List Frame,
      parse .ocaml4 id "Error: This expression has type t list".toList
          ["  but an expression was expected of type u list".toList,
            "  Type t is not compatible with type u".toList, "Values do not match:".toList,
            "  val x : t".toList, "is not included in".toList, "\tval x : u = 1".toList] =
        .ok (.expressionMismatch "This expression has type t list".toList ⟨frames, none⟩) ∧
      frames.map (·.toSides) = [⟨"val x : t".toList, "val x : u = 1".toList⟩, ⟨['t'], ['u']⟩,
        ⟨"t list".toList, "u list".toList⟩]) ∧
    ∃ frames : List Frame,
      parse .ocaml4 id "Error: The implementation a.ml does not match:".toList
          ["  Type t is not compatible with type u".toList, "Values do not match:".toList,
            "  val x : t".toList, "is not included in".toList, "\tval x : u = 1".toList,
            "  File \"a.mli\", line 1: Expected declaration".toList,
            " File \"a.ml\", line 2:".toList] =
        .ok (.interfaceMismatch "The implementation a.ml does not match:".toList
          (some ⟨"a.ml".toList, 2, 2, none, none⟩)
          (some ⟨"a.mli".toList, 1, 1, none, some "Expected declaration".toList⟩)
          ⟨frames, none⟩) ∧
      frames.map (·.toSides) = [⟨"val x : t".toList, "val x : u = 1".toList⟩, ⟨['t'], ['u']⟩] := by
  have hprinted : List.Forall₂ Level.IsPrinted
      [⟨.plainType, ['t'], ['u']⟩, ⟨.values, "val x : t".toList, "val x : u = 1".toList⟩]
      [["  Type t is not compatible with type u".toList],
        ["Values do not match:".toList, "  val x : t".toList, "is not included in".toList,
          "\tval x : u = 1".toList]] :=
    .cons (.cons ⟨"  ".toList, by decide, by decide⟩ .nil)
      (.cons (.cons ⟨[], by decide, by decide⟩ (.cons ⟨"  ".toList, by decide, by decide⟩
        (.cons ⟨[], by decide, by decide⟩ (.cons ⟨['\t'], by decide, by decide⟩ .nil)))) .nil)
  have hplain : ∀ l ∈ ([⟨.plainType, ['t'], ['u']⟩,
      ⟨.values, "val x : t".toList, "val x : u = 1".toList⟩] : List Level), l.sides.IsPlain := by
    simp only [List.forall_mem_cons]
    exact ⟨⟨by decide +kernel, by decide +kernel⟩, ⟨by decide +kernel, by decide +kernel⟩, by simp⟩
  obtain ⟨hexpression, hinterface⟩ := parse_mismatch id hprinted hplain
  constructor
  · have herror : "Error: This expression has type t list".toList =
        "Error: This expression has type ".toList ++ "t list".toList := by decide
    have hsummary : "This expression has type t list".toList =
        "This expression has type ".toList ++ "t list".toList := by decide
    rw [herror, hsummary]
    exact hexpression ⟨"t list".toList, "u list".toList⟩ _ ⟨by decide +kernel, by decide +kernel⟩
      ⟨"  ".toList, by decide, by decide⟩
  · have herror : "Error: The implementation a.ml does not match:".toList =
        "Error: The implementation".toList ++ " a.ml does not match".toList ++ [':'] := by decide
    have hsummary : "The implementation a.ml does not match:".toList =
        "The implementation".toList ++ " a.ml does not match".toList ++ [':'] := by decide
    have hexpected : Location.IsPrintable
        ⟨"a.mli".toList, 1, 1, none, some "Expected declaration".toList⟩ :=
      ⟨by decide, by decide, by decide, by simp, fun label h => by cases h; decide⟩
    have hactual : Location.IsPrintable ⟨"a.ml".toList, 2, 2, none, none⟩ :=
      ⟨by decide, by decide, by decide, by simp, by simp⟩
    rw [herror, hsummary]
    exact hinterface " a.ml does not match".toList _ _ _ _ hexpected hactual
      ⟨"  ".toList, by decide, by decide +kernel⟩ ⟨[' '], by decide, by decide +kernel⟩

end

end TypeReport
