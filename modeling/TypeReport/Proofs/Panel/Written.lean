import TypeReport.Proofs.Diagnostic.Characters
import TypeReport.Proofs.Panel.Characters

/-! # Written panels

The lines of a panel are written one below the other (`write_diagnostic`).  Without colours
they are the texts of the lines of the sections, each behind a bar, between the two borders
(`panel_eq`).  Texts are cut at their line feeds before they are laid out, so only a path
can bring one into a title and break a line in two (`lf_not_mem_panel`). -/

namespace TypeReport

/-! ### Sections -/

/-- A text inside the border of a panel. -/
def Panel.boxed (s : Text) : Text := '│' :: if s = [] then [] else ' ' :: s

theorem Panel.boxed_eq {s : Text} (h : s ≠ []) : Panel.boxed s = "│ ".toList ++ s :=
  congrArg _ (if_neg h)

namespace Panel

variable (carets : Bool) (s : Section) {ss : List Section}

theorem body_singleton : body carets [s] = s.lines carets := List.intercalate_singleton

theorem body_cons (h : ss ≠ []) : body carets (s :: ss) = s.lines carets ++ [] :: body carets ss := by
  obtain ⟨s', ss, rfl⟩ := List.exists_cons_of_ne_nil h
  rw [body, List.map_cons, List.map_cons, List.intercalate_cons_cons, List.append_assoc]
  rfl

theorem exists_body_append_singleton (ss : List Section) :
    ∃ above, body carets (ss ++ [s]) = above ++ s.lines carets := by
  induction ss with
  | nil => exact ⟨[], body_singleton carets s⟩
  | cons s' ss ih =>
      obtain ⟨above, habove⟩ := ih
      refine ⟨s'.lines carets ++ [] :: above, ?_⟩
      rw [List.cons_append, body_cons carets s' (by simp), habove, List.append_assoc,
        List.cons_append]

end Panel

/-! ### Titles -/

def Section.titles : Section → List Text
  | notice title _ => [title]
  | columns leftTitle rightTitle _ => [leftTitle, rightTitle]
  | _ => []

/-- The texts that are not titles are cut at their line feeds. -/
theorem Section.lf_not_mem_pieces {s : Section} (h : ∀ t ∈ s.titles, '\n' ∉ t) :
    ∀ p ∈ s.pieces, '\n' ∉ p := by
  cases s with
  | excerpt e => exact fun p hp => Text.not_mem_of_mem_splitOn hp
  | text t => exact fun p hp => Text.lf_not_mem_of_mem_lines hp
  | notice title body =>
      rw [pieces, List.forall_mem_cons]
      exact ⟨h title List.mem_cons_self, fun p hp => Text.lf_not_mem_of_mem_lines hp⟩
  | columns leftTitle rightTitle rows =>
      rw [titles, List.forall_mem_cons, List.forall_mem_singleton] at h
      rw [pieces, List.forall_mem_cons, List.forall_mem_cons, List.forall_mem_flatMap]
      refine ⟨h.1, h.2, fun row _ p hp => ?_⟩
      rcases List.mem_append.1 hp with hp | hp
      · exact Text.not_mem_of_mem_splitOn hp
      · exact Text.not_mem_of_mem_splitOn hp

namespace Diagnostic

theorem lf_not_mem_titles_backtraceSections {leftTitle rightTitle : Text}
    (hleft : '\n' ∉ leftTitle) (hright : '\n' ∉ rightTitle) (leftLine rightLine : Nat)
    (b : Backtrace) :
    ∀ sec ∈ backtraceSections leftTitle rightTitle leftLine rightLine b,
      ∀ s ∈ sec.titles, '\n' ∉ s := by
  rw [backtraceSections, List.forall_mem_append]
  constructor
  · intro sec hsec
    obtain ⟨notice, -, rfl⟩ := Option.map_eq_some_iff.1 (Option.mem_toList.1 hsec)
    rw [Section.titles, List.forall_mem_singleton]
    decide
  · split
    case isTrue => simp
    case isFalse =>
      rw [List.forall_mem_singleton, Section.titles, List.forall_mem_cons,
        List.forall_mem_singleton]
      exact ⟨hleft, hright⟩

theorem lf_not_mem_titles {e : Diagnostic} (h : ∀ l ∈ e.locations, '\n' ∉ l.path) :
    ∀ sec ∈ e.sections, ∀ s ∈ sec.titles, '\n' ∉ s := by
  have hlf : IsControl '\n' := by decide
  rw [locations, List.forall_mem_cons] at h
  rw [sections, List.forall_mem_append]
  constructor
  · intro sec hsec
    obtain ⟨x, -, rfl⟩ := Option.map_eq_some_iff.1 (Option.mem_toList.1 hsec)
    exact fun s hs => absurd hs List.not_mem_nil
  · cases hkind : e.kind with
    | plain text => simp [kindSections, Section.titles]
    | expressionMismatch summary b =>
        rw [kindSections, List.forall_mem_cons]
        refine ⟨by simp [Section.titles], ?_⟩
        exact lf_not_mem_titles_backtraceSections (by decide) (by decide) 1 1 b
    | interfaceMismatch summary actual expected b =>
        rw [hkind, Kind.locations, List.forall_mem_append] at h
        rw [kindSections, List.forall_mem_cons]
        refine ⟨by simp [Section.titles], ?_⟩
        apply lf_not_mem_titles_backtraceSections
        · exact not_mem_columnTitle hlf (by decide) fun l hl => h.2.1 l (Option.mem_toList.2 hl)
        · exact not_mem_columnTitle hlf (by decide) fun l hl => h.2.2 l (Option.mem_toList.2 hl)

end Diagnostic

/-! ### Panels -/

namespace Terminal

/-- The lines that are written for a diagnostic. -/
def panel (t : Terminal) (index : Nat) (e : Diagnostic) : List Text :=
  (t.lines (.diagnostic index e)).map (Line.paint t.colours)

theorem write_diagnostic (t : Terminal) (index : Nat) (e : Diagnostic) :
    t.write (.diagnostic index e) = Text.unlines (t.panel index e) := by
  rw [write, Text.unlines, panel, List.flatMap_map]

/-- Without colours a panel shows the texts of the lines of its sections. -/
theorem panel_eq {t : Terminal} (h : t.colours = false) (index : Nat) (e : Diagnostic) :
    t.panel index e = (Panel.top t.width (e.title index)).text ::
      ((Panel.body true e.sections).map Line.text).map Panel.boxed ++
        [(Panel.bottom t.width).text] := by
  have hpaint : Line.paint false = Line.text := funext Line.paint_false
  have hframed : (Panel.body true e.sections).map (Line.text ∘ Panel.framed) =
      (Panel.body true e.sections).map (Panel.boxed ∘ Line.text) :=
    List.map_congr_left fun l _ => Panel.text_framed l
  rw [panel, lines, h, hpaint, Panel.lines, List.map_append, List.map_cons, List.map_singleton,
    List.map_map, List.map_map, Bool.not_false, hframed]

/-- No line of a panel is broken in two when no path has a line feed. -/
theorem lf_not_mem_panel {t : Terminal} (ht : t.colours = false) (index : Nat) {e : Diagnostic}
    (h : ∀ l ∈ e.locations, '\n' ∉ l.path) : ∀ s ∈ t.panel index e, '\n' ∉ s := by
  have hlf : IsControl '\n' := by decide
  have hpath : '\n' ∉ e.location.path := h _ List.mem_cons_self
  have hclean : ∀ l ∈ t.lines (.diagnostic index e), '\n' ∉ l.text := by
    unfold lines
    apply Panel.not_mem_lines hlf
    · exact Diagnostic.not_mem_title hlf hpath index
    · apply Panel.not_mem_body hlf
      exact fun sec hsec => Section.lf_not_mem_pieces (Diagnostic.lf_not_mem_titles h sec hsec)
  rw [panel, ht, List.forall_mem_map]
  intro l hl
  rw [Line.paint_false]
  exact hclean l hl

end Terminal
end TypeReport
