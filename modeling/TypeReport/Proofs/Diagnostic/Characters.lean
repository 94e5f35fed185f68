import TypeReport.Proofs.Backtrace.Marks
import TypeReport.Proofs.Diagnostic.Reading
import TypeReport.Proofs.Text.Characters

/-! # The characters of a diagnostic

The texts of a diagnostic are taken from its block.  A source line is a piece of a line
of the block, so it is a line itself (`subset_of_mem_snippet`), and the sides of a frame
are pieces of some lines that are put together again, so they have only characters of the
block and line feeds (`mem_of_mem_frames`).  A path stands on a line as well, apart from
what its style makes of it (`Location.exists_path_of_parse`, `lf_not_mem_path`). -/

namespace TypeReport

variable {d : Dialect}

/-! ### Chunks -/

namespace Dialect

theorem stripLabel_subset (d : Dialect) (s : Text) : d.stripLabel s ⊆ s := by
  have hlabel : (d.labels.findSome? s.trimStart.after?).getD s.trimStart ⊆ s := by
    cases hfound : d.labels.findSome? s.trimStart.after? with
    | none => exact Text.trimStart_subset s
    | some rest =>
        obtain ⟨w, -, hrest⟩ := List.exists_of_findSome?_eq_some hfound
        exact fun c hc => Text.trimStart_subset s (Text.subset_of_after? hrest hc)
  exact fun c hc => hlabel (Text.trim_subset _ hc)

theorem subset_of_atConnective? {s a w b : Text} (h : d.atConnective? s = some (a, w, b)) :
    a ⊆ s ∧ b ⊆ s := by
  obtain ⟨w', -, hfound⟩ := List.exists_of_findSome?_eq_some h
  obtain ⟨⟨a', b'⟩, haround, hparts⟩ := Option.map_eq_some_iff.1 hfound
  cases hparts
  exact Text.subset_of_around? haround

end Dialect

namespace Chunk

theorem subset_of_sides {chunk : Text} {s : Sides} (h : sides d chunk = .ok s) :
    s.implementation ⊆ chunk ∧ s.interface ⊆ chunk := by
  unfold sides at h
  split at h
  case h_1 before w behind hfound =>
    obtain ⟨hbefore, hbehind⟩ := Dialect.subset_of_atConnective? hfound
    cases h
    exact ⟨fun c hc => hbefore (d.stripLabel_subset before hc),
      fun c hc => hbehind (Text.trim_subset behind hc)⟩
  case h_2 => cases h

theorem mem_of_mem_ofLines {ls : List Text} {c : Char} (h : c ∈ ofLines ls) :
    c = '\n' ∨ ∃ l ∈ ls, c ∈ l := by
  obtain ⟨l, hl, hc⟩ := List.mem_flatMap.1 h
  rcases List.mem_append.1 hc with hc | hc
  · exact .inr ⟨l, hl, hc⟩
  · exact .inl (List.mem_singleton.1 hc)

theorem exists_of_mem_split {ls : List Text} {chunk : Text} (h : chunk ∈ split d ls) :
    ∃ ls', ls' ⊆ ls ∧ chunk = ofLines ls' := by
  obtain ⟨hchunk, -⟩ := List.mem_filter.1 h
  obtain ⟨ls', hls', rfl⟩ := List.mem_map.1 hchunk
  refine ⟨ls', fun l hl => ?_, rfl⟩
  have hall := Runs.lead_append_flatten d.isBoundary (ls.filter (!d.isSkipped ·))
  have hmem : l ∈ ls.filter (!d.isSkipped ·) := by
    rw [← hall]
    rcases List.mem_cons.1 hls' with rfl | hrun
    · exact List.mem_append_left _ hl
    · exact List.mem_append_right _ (List.mem_flatten.2 ⟨ls', hrun, hl⟩)
  exact (List.mem_filter.1 hmem).1

end Chunk

/-- The sides of a frame have only characters of the lines that they are read from, and line
feeds. -/
theorem Backtrace.mem_of_mem_frames {ls : List Text} {b : Backtrace} (h : parse d ls = .ok b)
    {f : Frame} (hf : f ∈ b.frames) {c : Char} (hc : c ∈ f.implementation ∨ c ∈ f.interface) :
    c = '\n' ∨ ∃ l ∈ ls, c ∈ l := by
  obtain ⟨sides, hsides, rfl⟩ := parse_eq_ok_iff.1 h
  have hmem : f.toSides ∈ sides := by
    rw [← toSides_link sides]
    exact List.mem_map_of_mem hf
  obtain ⟨chunk, hchunk, hread⟩ := exists_of_mem_of_mapM_eq_ok hsides hmem
  obtain ⟨hsplit, -⟩ := List.mem_filter.1 (List.mem_reverse.1 hchunk)
  obtain ⟨ls', hls', rfl⟩ := Chunk.exists_of_mem_split hsplit
  obtain ⟨himplementation, hinterface⟩ := Chunk.subset_of_sides hread
  have hofLines : c ∈ Chunk.ofLines ls' := by
    rcases hc with hc | hc
    · exact himplementation hc
    · exact hinterface hc
  rcases Chunk.mem_of_mem_ofLines hofLines with hlf | ⟨l, hl, hcl⟩
  · exact .inl hlf
  · exact .inr ⟨l, hls' hl, hcl⟩

/-! ### Locations -/

theorem Location.exists_path_of_parse {style : PathStyle} {line : Text} {l : Location}
    (h : parse d style line = .ok l) : ∃ p, p ⊆ line ∧ l.path = style p := by
  rw [parse_eq_ok_iff] at h
  simp only [read, bind_eq_ok_iff, require_eq_ok_iff] at h
  obtain ⟨rest, hrest, ⟨path, _⟩, hpath, _, -, _, -, _, -, h⟩ := h
  split at h
  case isTrue => cases h
  case isFalse =>
    obtain ⟨_, -, h⟩ := bind_eq_ok_iff.1 h
    cases h
    refine ⟨path, fun c hc => ?_, rfl⟩
    exact Text.trim_subset _ (Text.subset_of_after? hrest ((Text.subset_of_around? hpath).1 hc))

namespace Kind

def locations : Kind → List Location
  | interfaceMismatch _ actual expected _ => actual.toList ++ expected.toList
  | _ => []

variable {style : PathStyle} {ls : List Text} {kind : Kind} {l : Location}

theorem exists_of_mem_locations_parseInterface {summary : Text}
    (h : parseInterface d style summary ls = .ok kind) (hl : l ∈ kind.locations) :
    ∃ line ∈ ls, Location.parse d style line = .ok l := by
  obtain ⟨backtrace, expected, actual, -, hexpected, hactual, rfl⟩ := parseInterface_eq_ok h
  have hreference {i : Nat} {l? : Option Location}
      (h : (ls.filter d.isReference)[i]?.mapM (Location.parse d style) = .ok l?) (hl : l ∈ l?) :
      ∃ line ∈ ls, Location.parse d style line = .ok l := by
    cases hline : (ls.filter d.isReference)[i]? with
    | none =>
        rw [hline] at h
        cases h
        cases hl
    | some line =>
        rw [hline, Option.mapM_some] at h
        obtain ⟨l', hl', h⟩ := bind_eq_ok_iff.1 h
        cases h
        cases hl
        exact ⟨line, (List.mem_filter.1 (List.mem_of_getElem? hline)).1, hl'⟩
  rcases List.mem_append.1 hl with hl | hl
  · exact hreference hactual (Option.mem_toList.1 hl)
  · exact hreference hexpected (Option.mem_toList.1 hl)

theorem exists_of_mem_locations {errorLine : Text} (h : parse d style errorLine ls = .ok kind)
    (hl : l ∈ kind.locations) : ∃ line ∈ ls, Location.parse d style line = .ok l := by
  simp only [parse] at h
  split at h
  case isTrue =>
    obtain ⟨backtrace, -, hkind⟩ := bind_eq_ok_iff.1 h
    cases hkind
    cases hl
  case isFalse =>
    split at h
    case isTrue =>
      split at h
      case isTrue => exact exists_of_mem_locations_parseInterface h hl
      case isFalse =>
        obtain ⟨line, hline, hparse⟩ := exists_of_mem_locations_parseInterface h hl
        exact ⟨line, List.dropWhile_subset _ (List.drop_subset _ _ hline), hparse⟩
    case isFalse =>
      cases h
      cases hl

end Kind

/-! ### Diagnostics -/

namespace Diagnostic

variable {style : PathStyle} {b : Block} {e : Diagnostic}

theorem exists_of_mem_snippet (h : parse d style b = .ok e) {line : SourceLine}
    (hline : line ∈ e.snippet) : ∃ l ∈ b.lines, line.text ⊆ l := by
  obtain ⟨sources, hsources, hsnippet, -⟩ := exists_sources_of_parse h
  rw [hsnippet] at hline
  obtain ⟨s, hs, rfl⟩ := List.mem_map.1 hline
  obtain ⟨l, hl, hfrom⟩ := exists_of_mem_right hsources hs
  exact ⟨l, b.sourceLines_subset d hl, hfrom.text_subset⟩

theorem lf_not_mem_of_mem_snippet (h : parse d style b = .ok e) {line : SourceLine}
    (hline : line ∈ e.snippet) : '\n' ∉ line.text := by
  obtain ⟨l, hl, hsubset⟩ := exists_of_mem_snippet h hline
  exact fun hlf => Text.lf_not_mem_of_mem_lines hl (hsubset hlf)

theorem subset_of_mem_snippet (h : parse d style b = .ok e) {line : SourceLine}
    (hline : line ∈ e.snippet) : line.text ⊆ b.text := by
  obtain ⟨l, hl, hsubset⟩ := exists_of_mem_snippet h hline
  exact fun c hc => Text.subset_of_mem_lines hl (hsubset hc)

/-- The sides of a frame have only characters of the block, and line feeds. -/
theorem mem_of_mem_frames (h : parse d style b = .ok e) {t : Backtrace}
    (ht : t ∈ e.kind.backtrace?) {f : Frame} (hf : f ∈ t.frames) {c : Char}
    (hc : c ∈ f.implementation ∨ c ∈ f.interface) : c = '\n' ∨ c ∈ b.text := by
  obtain ⟨first, rest, location, hlines, -, hbody⟩ := parse_eq_ok_iff.1 h
  obtain ⟨echoes, errorLine, rest', kind, -, herror, hkind, rfl⟩ := parseBody_eq_ok_iff.1 hbody
  have hsubset : errorLine :: rest' ⊆ b.lines := by
    rw [← herror, hlines]
    exact fun l hl => List.mem_cons_of_mem _ (List.dropWhile_subset _ hl)
  have hdescription : Kind.description d errorLine ⊆ errorLine := by
    intro c hc
    have hc := Text.trim_subset _ hc
    cases hafter : errorLine.after? d.errorOpening with
    | none => rwa [hafter] at hc
    | some text =>
        rw [hafter] at hc
        exact Text.subset_of_after? hafter hc
  obtain ⟨ls, hls, hparse⟩ := Kind.exists_parse_of_backtrace? hkind ht
  rcases Backtrace.mem_of_mem_frames hparse hf hc with hlf | ⟨l, hl, hcl⟩
  · exact .inl hlf
  · right
    rcases List.mem_cons.1 (hls hl) with rfl | hrest
    · exact Text.subset_of_mem_lines (hsubset List.mem_cons_self) (hdescription hcl)
    · exact Text.subset_of_mem_lines (hsubset (List.mem_cons_of_mem _ hrest)) hcl

def locations (e : Diagnostic) : List Location := e.location :: e.kind.locations

theorem exists_of_mem_locations (h : parse d style b = .ok e) {l : Location}
    (hl : l ∈ e.locations) : ∃ line ∈ b.lines, Location.parse d style line = .ok l := by
  obtain ⟨first, rest, location, hlines, hlocation, hbody⟩ := parse_eq_ok_iff.1 h
  obtain ⟨echoes, errorLine, rest', kind, -, herror, hkind, rfl⟩ := parseBody_eq_ok_iff.1 hbody
  rw [hlines]
  rcases List.mem_cons.1 hl with rfl | hl
  · exact ⟨first, List.mem_cons_self, hlocation⟩
  · obtain ⟨line, hline, hparse⟩ := Kind.exists_of_mem_locations hkind hl
    have hmem : line ∈ rest.dropWhile (!d.opensError ·) := by
      rw [herror]
      exact List.mem_cons_of_mem _ hline
    exact ⟨line, List.mem_cons_of_mem _ (List.dropWhile_subset _ hmem), hparse⟩

/-- A path has no line feed that its style does not put in. -/
theorem lf_not_mem_path (h : parse d style b = .ok e) (hstyle : ∀ p, '\n' ∉ p → '\n' ∉ style p) :
    ∀ l ∈ e.locations, '\n' ∉ l.path := by
  intro l hl
  obtain ⟨line, hline, hparse⟩ := exists_of_mem_locations h hl
  obtain ⟨p, hp, hpath⟩ := Location.exists_path_of_parse hparse
  rw [hpath]
  exact hstyle p fun hlf => Text.lf_not_mem_of_mem_lines hline (hp hlf)

end Diagnostic
end TypeReport
