import TypeReport.Proofs.Diagnostic.Characters
import TypeReport.Proofs.Diagnostic.Spans
import TypeReport.Proofs.Panel.Emphasis

/-! # The emphasised parts of a diagnostic

A diagnostic has some texts of which a part may be marked: its last source line, and the
sides of its frames.  Its excerpts are for these, one for each and in this order, and
each shows its text with the marked part emphasised (`shows_of_parse`).  That takes marks
that lie in their texts and source lines without line feeds, both of which reading a
block provides. -/

namespace TypeReport

/-- The excerpts of a section, in display order. -/
def Section.excerpts : Section → List Excerpt
  | excerpt e => [e]
  | text _ => []
  | notice _ _ => []
  | columns _ _ rows => rows.flatMap fun row => [row.1, row.2]

/-- A text of a diagnostic, with the part of it that is marked and the lines that belong above it.
-/
structure MarkedText where
  above : List Text
  text : Text
  mark : Option Span

namespace Diagnostic

/-- The excerpts of a diagnostic, in display order. -/
def excerpts (e : Diagnostic) : List Excerpt := e.sections.flatMap Section.excerpts

/-- The sides of a frame with their marks. -/
def markedSides (f : Frame) : List MarkedText :=
  [⟨[], f.implementation, f.implementationMark⟩, ⟨[], f.interface, f.interfaceMark⟩]

/-- The texts of a diagnostic that may be marked: the last source line, below the others, and the
sides of the frames. -/
def markedTexts (e : Diagnostic) : List MarkedText :=
  (e.snippet.getLast?.map fun last =>
    ⟨e.snippet.dropLast.map (·.text), last.text, e.marker⟩).toList ++
  e.kind.backtrace?.toList.flatMap fun b => b.frames.flatMap markedSides

/-! ### Frames -/

theorem forall₂_flatMap {α β γ : Type} {R : β → γ → Prop} {xs : List α} {f : α → List β}
    {g : α → List γ} (h : ∀ x ∈ xs, List.Forall₂ R (f x) (g x)) :
    List.Forall₂ R (xs.flatMap f) (xs.flatMap g) := by
  induction xs with
  | nil => exact .nil
  | cons x xs ih =>
      rw [List.forall_mem_cons] at h
      exact List.rel_append h.1 (ih h.2)

theorem excerpts_backtraceSections (leftTitle rightTitle : Text) (leftLine rightLine : Nat)
    (b : Backtrace) :
    (backtraceSections leftTitle rightTitle leftLine rightLine b).flatMap Section.excerpts =
      b.frames.flatMap fun f =>
        [(frameRow leftLine rightLine f).1, (frameRow leftLine rightLine f).2] := by
  have hnotice : (b.notice.map (Section.notice "Additional error".toList)).toList.flatMap
      Section.excerpts = [] := by
    cases b.notice with
    | none => rfl
    | some notice => rfl
  rw [backtraceSections, List.flatMap_append, hnotice, List.nil_append]
  cases hframes : b.frames with
  | nil => rfl
  | cons f fs =>
      rw [List.isEmpty_cons, if_neg Bool.false_ne_true, List.flatMap_singleton, Section.excerpts,
        List.flatMap_map]

theorem holds_side (startLine : Nat) {s : Text} {mark : Option Span} (h : ∀ m ∈ mark, m.IsIn s) :
    Excerpt.Holds ⟨startLine, s, mark, none⟩ [] s mark := by
  refine ⟨by simp, rfl, ?_, h⟩
  cases mark with
  | none => rfl
  | some m => rfl

theorem shows_frames (leftLine rightLine : Nat) {b : Backtrace}
    (hmarked : ∀ f ∈ b.frames, f.IsMarked)
    (hescape : ∀ f ∈ b.frames, '\x1b' ∉ f.implementation ∧ '\x1b' ∉ f.interface) :
    List.Forall₂ (fun x t => x.Shows t.above t.text t.mark)
      (b.frames.flatMap fun f =>
        [(frameRow leftLine rightLine f).1, (frameRow leftLine rightLine f).2])
      (b.frames.flatMap markedSides) := by
  apply forall₂_flatMap
  intro f hf
  obtain ⟨himplementation, hinterface⟩ := hmarked f hf
  obtain ⟨hescape₁, hescape₂⟩ := hescape f hf
  refine .cons ?_ (.cons ?_ .nil)
  · exact (holds_side leftLine fun m hm => (himplementation m hm).2).shows hescape₁
  · exact (holds_side rightLine fun m hm => (hinterface m hm).2).shows hescape₂

theorem shows_kindSections {k : Kind} (hmarked : ∀ b ∈ k.backtrace?, ∀ f ∈ b.frames, f.IsMarked)
    (hescape : ∀ b ∈ k.backtrace?, ∀ f ∈ b.frames,
      '\x1b' ∉ f.implementation ∧ '\x1b' ∉ f.interface) :
    List.Forall₂ (fun x t => x.Shows t.above t.text t.mark)
      ((kindSections k).flatMap Section.excerpts)
      (k.backtrace?.toList.flatMap fun b => b.frames.flatMap markedSides) := by
  cases k with
  | plain text => exact .nil
  | expressionMismatch summary b =>
      rw [kindSections, List.flatMap_cons, excerpts_backtraceSections, Kind.backtrace?,
        Option.toList_some, List.flatMap_singleton]
      exact shows_frames 1 1 (hmarked b rfl) (hescape b rfl)
  | interfaceMismatch summary actual expected b =>
      rw [kindSections, List.flatMap_cons, excerpts_backtraceSections, Kind.backtrace?,
        Option.toList_some, List.flatMap_singleton]
      exact shows_frames _ _ (hmarked b rfl) (hescape b rfl)

/-! ### The echoed source -/

/-- The excerpt of the source holds the last source line below the others. -/
theorem holds_sourceExcerpt? {e : Diagnostic} {x : Excerpt} (hx : e.sourceExcerpt? = some x)
    (hlines : ∀ line ∈ e.snippet, '\n' ∉ line.text)
    (hmarker : ∀ r ∈ e.marker, ∃ last ∈ e.snippet.getLast?, r.IsIn last.text) :
    ∃ last ∈ e.snippet.getLast?,
      x.Holds (e.snippet.dropLast.map (·.text)) last.text e.marker := by
  obtain ⟨first, hfirst, rfl⟩ := Option.map_eq_some_iff.1 hx
  rcases List.eq_nil_or_concat e.snippet with hsnippet | ⟨init, last, hsnippet⟩
  case inl =>
    rw [hsnippet] at hfirst
    cases hfirst
  case inr =>
    rw [List.concat_eq_append] at hsnippet
    have hlast : e.snippet.getLast? = some last := by
      rw [hsnippet, List.getLast?_concat]
    have hinit : e.snippet.dropLast = init := by
      rw [hsnippet, List.dropLast_concat]
    refine ⟨last, hlast, ?_⟩
    rw [hinit]
    constructor
    case lines =>
      rw [List.forall_mem_map]
      intro line hline
      apply hlines
      rw [hsnippet]
      exact List.mem_append_left _ hline
    case text =>
      dsimp only
      rw [hsnippet, List.map_append, Text.joinLines_append _ (by simp)]
      exact congrArg _ List.intercalate_singleton
    case emphasis =>
      dsimp only
      rw [Text.unlines, List.flatMap_map]
    case mark =>
      intro r hr
      obtain ⟨last', hlast', hin⟩ := hmarker r hr
      rw [hlast] at hlast'
      cases hlast'
      exact hin

theorem text_sourceExcerpt?_subset {e : Diagnostic} {x : Excerpt} (hx : e.sourceExcerpt? = some x)
    {c : Char} (hc : c ∈ x.text) : c = '\n' ∨ ∃ line ∈ e.snippet, c ∈ line.text := by
  obtain ⟨first, -, rfl⟩ := Option.map_eq_some_iff.1 hx
  rcases Text.mem_intercalate hc with hlf | ⟨l, hl, hcl⟩
  · exact .inl (List.mem_singleton.1 hlf)
  · obtain ⟨line, hline, rfl⟩ := List.mem_map.1 hl
    exact .inr ⟨line, hline, hcl⟩

/-! ### Diagnostics -/

/-- The excerpts of a diagnostic that is read show its texts with the marked parts emphasised, and
in the source the marked part is in the last line. -/
theorem shows_of_parse {d : Dialect} {style : PathStyle} {b : Block} {e : Diagnostic}
    (h : parse d style b = .ok e) (hescape : '\x1b' ∉ b.text) :
    List.Forall₂ (fun x t => x.Shows t.above t.text t.mark) e.excerpts e.markedTexts ∧
      ∀ x ∈ e.sourceExcerpt?, ∀ l ∈ (x.lines false).dropLast,
        inked .emphasis (l.paint true) = [] := by
  have hlf : '\x1b' ≠ '\n' := by decide
  have hlines : ∀ line ∈ e.snippet, '\n' ∉ line.text := fun line => lf_not_mem_of_mem_snippet h
  have hkind : List.Forall₂ (fun x t => x.Shows t.above t.text t.mark)
      ((kindSections e.kind).flatMap Section.excerpts)
      (e.kind.backtrace?.toList.flatMap fun b => b.frames.flatMap markedSides) := by
    apply shows_kindSections
    · exact fun t ht => (isMarked_of_parse h ht).1
    · intro t ht f hf
      constructor
      · exact fun hc => hescape ((mem_of_mem_frames h ht hf (.inl hc)).resolve_left hlf)
      · exact fun hc => hescape ((mem_of_mem_frames h ht hf (.inr hc)).resolve_left hlf)
  cases hx : e.sourceExcerpt? with
  | none =>
      have hsnippet : e.snippet = [] := List.head?_eq_none_iff.1 (Option.map_eq_none_iff.1 hx)
      rw [excerpts, sections, hx, markedTexts, hsnippet]
      exact ⟨hkind, by simp⟩
  | some x =>
      obtain ⟨last, hlast, hholds⟩ := holds_sourceExcerpt? hx hlines (isIn_of_parse h)
      have hclean : '\x1b' ∉ x.text := by
        intro hc
        rcases text_sourceExcerpt?_subset hx hc with hc | ⟨line, hline, hc⟩
        · exact hlf hc
        · exact hescape (subset_of_mem_snippet h hline hc)
      constructor
      · rw [excerpts, sections, hx, markedTexts, Option.mem_def.1 hlast]
        exact .cons (hholds.shows hclean) hkind
      · intro x' hx'
        cases hx'
        exact hholds.inked_of_mem_dropLast hclean (hlines last (List.mem_of_getLast? hlast))

/-- A marker at the start of the second of two lines, and a head that runs over a line end. -/
theorem shows_of_parse_sample :
    ∃ e, parse .ocaml4 id ⟨0, ("File \"a\", line 1:\n1 | a\n2 | é = é\n     ^\n" ++
          "Error: This expression has type t is not included in a val x :\nint b\n" ++
          "Type s is not included in val x :\nint = 3\n").toList⟩ = .ok e ∧
      e.markedTexts.map (·.mark) = [some ⟨0, 2⟩, none, none, none, some ⟨2, 13⟩] ∧
      List.Forall₂ (fun x t => x.Shows t.above t.text t.mark) e.excerpts e.markedTexts := by
  have hparse : parse .ocaml4 id ⟨0, ("File \"a\", line 1:\n1 | a\n2 | é = é\n     ^\n" ++
      "Error: This expression has type t is not included in a val x :\nint b\n" ++
      "Type s is not included in val x :\nint = 3\n").toList⟩ =
      .ok ⟨⟨['a'], 1, 1, none, none⟩, [⟨1, ['a']⟩, ⟨2, "é = é".toList⟩], some ⟨0, 2⟩,
        .expressionMismatch "This expression has type t is not included in a val x :".toList
          ⟨[⟨⟨['s'], "val x :\nint = 3".toList⟩, none, none⟩,
            ⟨⟨['t'], "a val x :\nint b".toList⟩, none, some ⟨2, 13⟩⟩], none⟩⟩ := by
    decide +kernel
  exact ⟨_, hparse, rfl, (shows_of_parse hparse (by decide +kernel)).1⟩

end Diagnostic
end TypeReport
