import TypeReport.Proofs.Diagnostic.Echoes
import TypeReport.Proofs.Diagnostic.Failures
import TypeReport.Proofs.Leading

/-! # What the lines of a block say

The lines of a block are a location line, echoed lines, and from the first line on that
opens an error, its body.  `Diagnostic.IsReading` says what such lines are read as, and
which of several faults is blamed: the first line comes before the echoed lines, of these
the first that says nothing comes before a missing body, and only then the body is looked
at.  Each block has one reading, and `parse` finds it (`parse_iff_isReading`). -/

namespace TypeReport

variable {d : Dialect} {style : PathStyle}

/-- An error without further structure is kept verbatim, up to the blanks behind it. -/
theorem Kind.eq_of_parse_eq_plain {errorLine : Text} {rest : List Text} {text : Text}
    (h : Kind.parse d style errorLine rest = .ok (.plain text)) :
    text = Text.trimEnd (Text.joinLines (errorLine :: rest)) := by
  have hinterface {summary : Text} {ls : List Text}
      (h : parseInterface d style summary ls = .ok (.plain text)) : False := by
    obtain ⟨_, _, _, -, -, -, heq⟩ := parseInterface_eq_ok h
    cases heq
  simp only [Kind.parse] at h
  split at h
  case isTrue =>
    obtain ⟨_, -, heq⟩ := bind_eq_ok_iff.1 h
    cases heq
  case isFalse =>
    split at h
    case isTrue =>
      split at h
      case isTrue => exact (hinterface h).elim
      case isFalse => exact (hinterface h).elim
    case isFalse =>
      cases h
      rfl

namespace Diagnostic

/-- Whether lines can stand between the location line and the body. -/
def AreEchoes (d : Dialect) (ls : List Text) : Prop :=
  ∀ line ∈ ls, d.opensError line = false ∧ ∃ e : Echo, e.IsFrom line

/-- The marked part of the last of some source lines, each with the size of its number. -/
def markerOf? (sources : List (Nat × SourceLine)) (caretLines : List Text) : Option Span :=
  sources.getLast?.bind fun s => Marker.span? caretLines s.1 s.2.text

/-- What the lines of a block are read as.  The first fault counts: a location that cannot be read,
a line in front of the body that says nothing, a missing body, a body that cannot be read.
Otherwise the snippet is what the lines with a digit say, and the marker what the other lines say
about the last of them. -/
inductive IsReading (d : Dialect) (style : PathStyle) : List Text → Except Failure Diagnostic → Prop
  | empty : IsReading d style [] (.error (.malformedStart 1 []))
  | malformed {first : Text} {rest : List Text} {e : Failure}
      (location : Location.parse d style first = .error e) :
      IsReading d style (first :: rest) (.error e)
  | unexpected {first line : Text} {before behind : List Text} {l : Location}
      (location : Location.parse d style first = .ok l) (echoes : AreEchoes d before)
      (not_opensError : d.opensError line = false) (not_isFrom : ∀ e : Echo, ¬ e.IsFrom line) :
      IsReading d style (first :: (before ++ line :: behind)) (.error (.unexpectedLine line))
  | missing {first : Text} {rest : List Text} {l : Location}
      (location : Location.parse d style first = .ok l) (echoes : AreEchoes d rest) :
      IsReading d style (first :: rest) (.error (.missingErrorLine l.place))
  | body {first errorLine : Text} {before rest : List Text} {l : Location} {e : Failure}
      (location : Location.parse d style first = .ok l) (echoes : AreEchoes d before)
      (opensError : d.opensError errorLine = true)
      (kind : Kind.parse d style errorLine rest = .error e) :
      IsReading d style (first :: (before ++ errorLine :: rest)) (.error e)
  | read {first errorLine : Text} {before rest : List Text} {l : Location} {k : Kind}
      {sources : List (Nat × SourceLine)} (location : Location.parse d style first = .ok l)
      (echoes : AreEchoes d before) (opensError : d.opensError errorLine = true)
      (sources_isFrom : List.Forall₂ (fun line s => Echo.IsFrom line (.source s.1 s.2))
        (before.filter Echo.startsWithDigit) sources)
      (kind : Kind.parse d style errorLine rest = .ok k) :
      IsReading d style (first :: (before ++ errorLine :: rest))
        (.ok ⟨l, sources.map (·.2),
          markerOf? sources (before.filter (!Echo.startsWithDigit ·)), k⟩)

/-! ### Lines in front of the body -/

variable {ls before : List Text} {line : Text} {l : Location}

theorem AreEchoes.not_opensError (h : AreEchoes d ls) : ∀ l ∈ ls, (!d.opensError l) = true := by
  intro l hl
  rw [(h l hl).1]
  rfl

theorem AreEchoes.exists_forall₂ (h : AreEchoes d ls) :
    ∃ echoes, List.Forall₂ (fun line e => Echo.IsFrom line e) ls echoes :=
  Echo.exists_forall₂_isFrom_iff.2 fun l hl => (h l hl).2

theorem AreEchoes.takeWhile_append (h : AreEchoes d before) (hline : d.opensError line = true) :
    (before ++ line :: ls).takeWhile (!d.opensError ·) = before :=
  takeWhile_append_cons h.not_opensError (by simpa using hline)

theorem AreEchoes.dropWhile_append (h : AreEchoes d before) (hline : d.opensError line = true) :
    (before ++ line :: ls).dropWhile (!d.opensError ·) = line :: ls :=
  dropWhile_append_cons h.not_opensError (by simpa using hline)

theorem areEchoes_takeWhile {echoes : List Echo}
    (h : List.Forall₂ (fun line e => Echo.IsFrom line e) (ls.takeWhile (!d.opensError ·)) echoes) :
    AreEchoes d (ls.takeWhile (!d.opensError ·)) := by
  intro l hl
  refine ⟨by simpa using List.mem_takeWhile_imp hl, ?_⟩
  exact Echo.exists_forall₂_isFrom_iff.1 ⟨echoes, h⟩ l hl

theorem opensError_of_dropWhile {rest : List Text}
    (h : ls.dropWhile (!d.opensError ·) = line :: rest) : d.opensError line = true := by
  have hhead : line ∈ (ls.dropWhile (!d.opensError ·)).head? := by
    rw [h]
    rfl
  simpa using of_mem_head?_dropWhile hhead

/-! ### Readings -/

theorem isReading_parseBody {first : Text} (hlocation : Location.parse d style first = .ok l)
    (ls : List Text) : IsReading d style (first :: ls) (parseBody d style l ls) := by
  have hls := List.takeWhile_append_dropWhile (p := (!d.opensError ·)) (l := ls)
  cases h : parseBody d style l ls with
  | error e =>
      rcases parseBody_eq_error_iff.1 h with hecho | ⟨⟨echoes, hechoes⟩, hbody⟩
      · obtain ⟨before, line, behind, htake, hbefore, hline, rfl⟩ :=
          Echo.mapM_echoes_eq_error_iff.1 hecho
        have hnot : ∀ l ∈ before ++ line :: behind, d.opensError l = false := by
          intro l hl
          rw [← htake] at hl
          simpa using List.mem_takeWhile_imp hl
        rw [← hls, htake, List.append_assoc, List.cons_append]
        refine .unexpected hlocation (fun l hl => ⟨hnot l ?_, hbefore l hl⟩) (hnot line ?_) hline
        · exact List.mem_append_left _ hl
        · exact List.mem_append_right _ List.mem_cons_self
      · have hareEchoes := areEchoes_takeWhile (Echo.mapM_echoes_eq_ok_iff.1 hechoes)
        rcases hbody with ⟨hnil, rfl⟩ | ⟨errorLine, rest, hdrop, hkind⟩
        · rw [hnil, List.append_nil] at hls
          rw [hls] at hareEchoes
          exact .missing hlocation hareEchoes
        · rw [← hls, hdrop]
          exact .body hlocation hareEchoes (opensError_of_dropWhile hdrop) hkind
  | ok e =>
      obtain ⟨echoes, errorLine, rest, kind, hechoes, hdrop, hkind, rfl⟩ := parseBody_eq_ok_iff.1 h
      have hechoes := Echo.mapM_echoes_eq_ok_iff.1 hechoes
      have hmarker : marker? echoes = markerOf? (echoes.filterMap Echo.source?)
          ((ls.takeWhile (!d.opensError ·)).filter (!Echo.startsWithDigit ·)) := by
        rw [marker?, Echo.filterMap_carets? hechoes]
        rfl
      rw [hmarker]
      have hreading := IsReading.read hlocation (areEchoes_takeWhile hechoes)
        (opensError_of_dropWhile hdrop) (Echo.forall₂_filterMap_source? hechoes) hkind
      rwa [← hdrop, hls] at hreading

theorem isReading_parse (b : Block) : IsReading d style b.lines (parse d style b) := by
  unfold parse
  split
  case h_1 hlines =>
    rw [hlines]
    exact .empty
  case h_2 first rest hlines =>
    rw [hlines]
    cases hlocation : Location.parse d style first with
    | error e => exact .malformed hlocation
    | ok l => exact isReading_parseBody hlocation rest

theorem AreEchoes.exists_mapM_eq_ok (h : AreEchoes d before) (hline : d.opensError line = true)
    (rest : List Text) :
    ∃ echoes, ((before ++ line :: rest).takeWhile (!d.opensError ·)).mapM
        (fun line => require (Failure.unexpectedLine line) (Echo.read? line)) = .ok echoes ∧
      List.Forall₂ (fun line e => Echo.IsFrom line e) before echoes := by
  obtain ⟨echoes, hechoes⟩ := h.exists_forall₂
  refine ⟨echoes, ?_, hechoes⟩
  rw [h.takeWhile_append hline]
  exact Echo.mapM_echoes_eq_ok_iff.2 hechoes

theorem sources_unique {sources sources' : List (Nat × SourceLine)}
    (h : List.Forall₂ (fun line s => Echo.IsFrom line (.source s.1 s.2)) ls sources)
    (h' : List.Forall₂ (fun line s => Echo.IsFrom line (.source s.1 s.2)) ls sources') :
    sources = sources' := by
  refine List.right_unique_forall₂' (fun line s s' hs hs' => ?_) h h'
  obtain ⟨hsize, hline⟩ := Echo.source.inj (hs.unique hs')
  exact Prod.ext hsize hline

/-- A reading of lines is what a block with these lines is read as. -/
theorem IsReading.parse_eq {ls : List Text} {r : Except Failure Diagnostic}
    (h : IsReading d style ls r) {b : Block} (hlines : b.lines = ls) : parse d style b = r := by
  have hparse {first : Text} {rest : List Text} (hls : ls = first :: rest) {l : Location}
      (hlocation : Location.parse d style first = .ok l) :
      parse d style b = parseBody d style l rest := by
    rw [parse, hlines, hls]
    simp only [hlocation, bind, Except.bind]
  cases h with
  | empty => rw [parse, hlines]
  | malformed hlocation =>
      rw [parse, hlines]
      simp only [hlocation, bind, Except.bind]
  | @unexpected first line before behind l hlocation hechoes hnot hline =>
      have htake : (before ++ line :: behind).takeWhile (!d.opensError ·) =
          before ++ line :: behind.takeWhile (!d.opensError ·) := by
        rw [List.takeWhile_append_of_pos hechoes.not_opensError,
          List.takeWhile_cons_of_pos (by simp [hnot])]
      rw [hparse rfl hlocation]
      refine parseBody_eq_error_iff.2 (.inl (Echo.mapM_echoes_eq_error_iff.2 ?_))
      exact ⟨before, line, _, htake, fun l hl => (hechoes l hl).2, hline, rfl⟩
  | @missing first rest l hlocation hechoes =>
      have htake : rest.takeWhile (!d.opensError ·) = rest :=
        List.takeWhile_eq_self_iff.2 hechoes.not_opensError
      have hdrop : rest.dropWhile (!d.opensError ·) = [] :=
        List.dropWhile_eq_nil_iff.2 hechoes.not_opensError
      obtain ⟨echoes, hforall⟩ := hechoes.exists_forall₂
      rw [hparse rfl hlocation]
      refine parseBody_eq_error_iff.2 (.inr ⟨⟨echoes, ?_⟩, .inl ⟨hdrop, rfl⟩⟩)
      rw [htake]
      exact Echo.mapM_echoes_eq_ok_iff.2 hforall
  | @body first errorLine before rest l e hlocation hechoes hopens hkind =>
      obtain ⟨echoes, hmapM, -⟩ := hechoes.exists_mapM_eq_ok hopens rest
      rw [hparse rfl hlocation]
      exact parseBody_eq_error_iff.2 (.inr ⟨⟨echoes, hmapM⟩, .inr
        ⟨errorLine, rest, hechoes.dropWhile_append hopens, hkind⟩⟩)
  | @read first errorLine before rest l k sources hlocation hechoes hopens hsources hkind =>
      obtain ⟨echoes, hmapM, hforall⟩ := hechoes.exists_mapM_eq_ok hopens rest
      obtain rfl := sources_unique hsources (Echo.forall₂_filterMap_source? hforall)
      rw [hparse rfl hlocation]
      refine parseBody_eq_ok_iff.2 ⟨echoes, errorLine, rest, k, hmapM,
        hechoes.dropWhile_append hopens, hkind, ?_⟩
      rw [marker?, Echo.filterMap_carets? hforall]
      rfl

end Diagnostic

/-! ### The lines of a block -/

namespace Block

/-- The lines between the first line of a block and its body. -/
def echoLines (d : Dialect) (b : Block) : List Text := b.lines.tail.takeWhile (!d.opensError ·)

/-- The source lines of a block, as they are printed. -/
def sourceLines (d : Dialect) (b : Block) : List Text :=
  (b.echoLines d).filter Echo.startsWithDigit

theorem sourceLines_subset (d : Dialect) (b : Block) : b.sourceLines d ⊆ b.lines := fun _ hl =>
  List.mem_of_mem_tail (List.takeWhile_subset _ (List.mem_filter.1 hl).1)

/-- The marker lines of a block. -/
def markerLines (d : Dialect) (b : Block) : List Text :=
  (b.echoLines d).filter (!Echo.startsWithDigit ·)

end Block

namespace Diagnostic

/-- The snippet and the marker of a block are read from its source lines and marker lines. -/
theorem exists_sources_of_parse {b : Block} {e : Diagnostic} (h : parse d style b = .ok e) :
    ∃ sources, List.Forall₂ (fun line s => Echo.IsFrom line (.source s.1 s.2)) (b.sourceLines d)
        sources ∧ e.snippet = sources.map (·.2) ∧
      e.marker = markerOf? sources (b.markerLines d) := by
  have hreading : IsReading d style b.lines (parse d style b) := isReading_parse b
  rw [h] at hreading
  generalize hlines : b.lines = ls at hreading
  cases hreading with
  | @read first errorLine before rest l k sources hlocation hechoes hopens hsources hkind =>
      have hecho : b.echoLines d = before := by
        rw [Block.echoLines, hlines, List.tail_cons, hechoes.takeWhile_append hopens]
      refine ⟨sources, ?_, rfl, ?_⟩
      · rwa [Block.sourceLines, hecho]
      · rw [Block.markerLines, hecho]

/-- A block is read as its lines say, and in no other way.  The text of a plain error is what stands
from the first line on that opens an error. -/
theorem parse_iff_isReading (d : Dialect) (style : PathStyle) (b : Block) :
    (∀ r, parse d style b = r ↔ IsReading d style b.lines r) ∧
    ∀ e text, parse d style b = .ok e → e.kind = .plain text →
      ∃ first before errorLine rest, b.lines = first :: (before ++ errorLine :: rest) ∧
        (∀ line ∈ before, d.opensError line = false) ∧ d.opensError errorLine = true ∧
        text = Text.trimEnd (Text.joinLines (errorLine :: rest)) := by
  have hiff (r : Except Failure Diagnostic) : parse d style b = r ↔ IsReading d style b.lines r :=
    ⟨fun h => h ▸ isReading_parse b, fun h => h.parse_eq rfl⟩
  refine ⟨hiff, fun e text hparse hkind => ?_⟩
  have hreading := (hiff _).1 hparse
  generalize hlines : b.lines = ls at hreading
  cases hreading with
  | @read first errorLine before rest l k sources hlocation hechoes hopens hsources hk =>
      have hk' : k = .plain text := hkind
      rw [hk'] at hk
      exact ⟨first, before, errorLine, rest, rfl, fun line hline => (hechoes line hline).1, hopens,
        Kind.eq_of_parse_eq_plain hk⟩

/-- An error opening that starts with a digit, a source line with a caret, and blanks behind the
body. -/
theorem parse_iff_isReading_digit_opening :
    parse { Dialect.ocaml4 with errorOpening := "2 |".toList } id
        ⟨0, "File \"a\", line 1:\n01\t |  x^\n    ^\n2 | y\n3z\n ".toList⟩ =
      .ok ⟨⟨['a'], 1, 1, none, none⟩, [⟨1, " x^".toList⟩], some ⟨0, 0⟩, .plain "2 | y\n3z".toList⟩ ∧
    ∃ errorLine rest, "2 | y\n3z".toList = Text.trimEnd (Text.joinLines (errorLine :: rest)) := by
  obtain ⟨hiff, hplain⟩ := parse_iff_isReading
    { Dialect.ocaml4 with errorOpening := "2 |".toList } id
    ⟨0, "File \"a\", line 1:\n01\t |  x^\n    ^\n2 | y\n3z\n ".toList⟩
  have hparse := (hiff (.ok ⟨⟨['a'], 1, 1, none, none⟩, [⟨1, " x^".toList⟩], some ⟨0, 0⟩,
    .plain "2 | y\n3z".toList⟩)).2 <| by
      have hsource : Echo.IsFrom "01\t |  x^".toList (.source 3 ⟨1, " x^".toList⟩) :=
        .source (by decide : "01".toList ≠ []) (List.all_eq_true.1 (by decide))
          (by decide : Text.isBlank ['\t'] = true) (by decide) (by decide) (.inl rfl) (by decide)
      have hcarets : Echo.IsFrom "    ^".toList (.carets "    ^".toList) :=
        .carets (by decide) (by decide)
      refine @IsReading.read _ _ _ _ ["01\t |  x^".toList, "    ^".toList] _ _ _
        [(3, ⟨1, " x^".toList⟩)] rfl ?_ rfl ?_ rfl
      · rw [AreEchoes, List.forall_mem_cons, List.forall_mem_singleton]
        exact ⟨⟨by decide, _, hsource⟩, by decide, _, hcarets⟩
      · exact .cons hsource .nil
  obtain ⟨_, _, errorLine, rest, -, -, -, htext⟩ := hplain _ _ hparse rfl
  exact ⟨hparse, errorLine, rest, htext⟩

end Diagnostic
end TypeReport
