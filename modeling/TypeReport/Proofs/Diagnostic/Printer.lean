import TypeReport.Proofs.Block.Partition
import TypeReport.Proofs.Diagnostic.Echoes
import TypeReport.Proofs.Diagnostic.Marker
import TypeReport.Proofs.Location.Printer

/-! # Streams of plain errors read back

A plain error that can be printed line by line (`PlainError.IsPrintable`) is what
reading its lines gives (`IsPrintable.parse_eq`).  A stream of such errors is cut where
each ends (`split_printAll`), so the whole of it is read back in order
(`parseAll_printAll`). -/

namespace TypeReport

/-! ### Echoed lines -/

theorem exists_digit_ofNat (n : Nat) : ∃ c s, Text.ofNat n = c :: s ∧ c.isDigit = true := by
  obtain ⟨c, s, hs⟩ := List.exists_cons_of_ne_nil (Text.ofNat_ne_nil n)
  refine ⟨c, s, hs, ?_⟩
  refine List.all_eq_true.1 (Text.all_isDigit_ofNat n) c ?_
  rw [hs]
  exact List.mem_cons_self

theorem SourceLine.exists_digit_print (l : SourceLine) :
    ∃ c s, l.print = c :: s ∧ c.isDigit = true := by
  obtain ⟨c, s, hs, hc⟩ := exists_digit_ofNat l.number
  refine ⟨c, s ++ " | ".toList ++ l.text, ?_, hc⟩
  rw [SourceLine.print, hs]
  rfl

/-- A printed marker starts with a space, since something stands before the source text. -/
theorem Marker.exists_space_print (labelSize : Nat) (r : Span) :
    ∃ s, Marker.print labelSize r = ' ' :: s := by
  have hlength : labelSize + barSize + r.start = labelSize + 2 + r.start + 1 := by
    simp only [barSize]
    omega
  refine ⟨List.replicate (labelSize + 2 + r.start) ' ' ++ List.replicate r.length '^', ?_⟩
  rw [Marker.print, hlength, List.replicate_succ]
  rfl

namespace Echo

theorem isFrom_source_print {l : SourceLine} (h : l.number < UInt32.size) :
    IsFrom l.print (.source (Text.ofNat l.number).size l) := by
  have hdigits := List.all_eq_true.1 (Text.all_isDigit_ofNat l.number)
  obtain ⟨hne, -, hnumber, -⟩ :=
    (Text.readNat?_eq_some_iff (head?_ne_sign hdigits)).1 (Text.readNat?_ofNat h)
  have hline : l.print = Text.ofNat l.number ++ [] ++ " |".toList ++ ([' '] ++ l.text) := by
    rw [List.append_nil, SourceLine.print, List.append_assoc, List.append_assoc]
    rfl
  have hfrom := IsFrom.source hne hdigits rfl hnumber h (.inl rfl) hline
  rwa [List.append_nil] at hfrom

theorem isFrom_carets_print {r : Span} (h : r.start < r.stop) (labelSize : Nat) :
    IsFrom (Marker.print labelSize r) (.carets (Marker.print labelSize r)) := by
  constructor
  · obtain ⟨s, hs⟩ := Marker.exists_space_print labelSize r
    rw [hs]
    rfl
  · have hlength : r.length ≠ 0 := Nat.sub_ne_zero_of_lt h
    exact List.mem_append_right _ (List.mem_replicate.2 ⟨hlength, rfl⟩)

end Echo

namespace PlainError

/-! ### Printable errors -/

/-- Whether a plain error can be read back from its lines.  Its location line and its source lines
are single lines, the marker covers a part of the last of these, and no line of the text but the
first is taken for more than text. -/
structure IsPrintable (e : PlainError) : Prop where
  location : e.location.IsPrintable
  path : '\n' ∉ e.location.path
  label : e.location.label = none
  snippet : ∀ l ∈ e.snippet,
    l.number < UInt32.size ∧ '\n' ∉ l.text ∧ l.text.getLast? ≠ some '\r'
  marker : ∀ r ∈ e.marker, ∃ last ∈ e.snippet.getLast?,
    r.start < r.stop ∧ (r.slice? last.text).isSome = true
  opening : Dialect.ocaml4.opensError e.text = true
  trimEnd : e.text.trimEnd = e.text
  returns : ∀ l ∈ e.text.splitOn '\n', l.getLast? ≠ some '\r'
  blocks : ∀ l ∈ (e.text.splitOn '\n').tail, Dialect.ocaml4.opensBlock l = false
  description : ∀ first ∈ (e.text.splitOn '\n').head?,
    (Kind.description .ocaml4 first).startsWith Dialect.ocaml4.expressionOpening = false ∧
    (Kind.description .ocaml4 first).startsWith Dialect.ocaml4.interfaceOpening = false

variable {e : PlainError}

/-- The lines between the location and the text. -/
def echoLines (e : PlainError) : List Text := e.snippet.map SourceLine.print ++ e.markerLine

/-- The lines of a printed error, none of which holds a line feed. -/
def printedLines (e : PlainError) : List Text :=
  e.location.print .ocaml4 :: (e.echoLines ++ e.text.splitOn '\n')

theorem print_eq_unlines (e : PlainError) : e.print .ocaml4 = Text.unlines e.printedLines := by
  have happend (a b : List Text) : Text.unlines (a ++ b) = Text.unlines a ++ Text.unlines b :=
    List.flatMap_append
  have hprint : e.print .ocaml4 = Text.unlines (e.location.print .ocaml4 ::
      e.snippet.map SourceLine.print ++ e.markerLine ++ [e.text]) := rfl
  have htext : Text.unlines [e.text] = e.text ++ ['\n'] := by simp [Text.unlines]
  rw [hprint, happend, htext, ← Text.unlines_splitOn, ← happend, printedLines, echoLines]
  simp only [List.cons_append, List.append_assoc]

theorem IsPrintable.markerLine_eq (h : e.IsPrintable) :
    (e.marker = none ∧ e.markerLine = []) ∨
      ∃ r last, e.marker = some r ∧ e.snippet.getLast? = some last ∧ r.start < r.stop ∧
        (r.slice? last.text).isSome = true ∧
        e.markerLine = [Marker.print (Text.ofNat last.number).size r] := by
  have hmarker := h.marker
  cases hr : e.marker with
  | none =>
      refine .inl ⟨rfl, ?_⟩
      rw [markerLine, hr]
  | some r =>
      obtain ⟨last, hlast, hlt, hslice⟩ := hmarker r hr
      refine .inr ⟨r, last, rfl, hlast, hlt, hslice, ?_⟩
      rw [markerLine, hr, hlast]

theorem IsPrintable.text_eq (h : e.IsPrintable) :
    ∃ first rest, e.text.splitOn '\n' = first :: rest ∧ Dialect.ocaml4.opensError first = true ∧
      Text.joinLines (first :: rest) = e.text := by
  obtain ⟨s, hs⟩ := Text.startsWith_iff.1 h.opening
  have hopening : '\n' ∉ Dialect.ocaml4.errorOpening := by decide
  obtain ⟨first, rest, hsplit⟩ := Text.exists_splitOn_append hopening s
  rw [hs] at hsplit
  refine ⟨Dialect.ocaml4.errorOpening ++ first, rest, hsplit, ?_, ?_⟩
  · exact Text.startsWith_iff.2 ⟨first, rfl⟩
  · rw [← hsplit, Text.joinLines, List.intercalate_splitOn]

/-! ### The lines of a printed error -/

theorem IsPrintable.mem_markerLine (h : e.IsPrintable) {l : Text} (hl : l ∈ e.markerLine) :
    ∃ n r, l = Marker.print n r := by
  rcases h.markerLine_eq with ⟨-, hnil⟩ | ⟨r, last, -, -, -, -, hline⟩
  · rw [hnil] at hl
    cases hl
  · rw [hline, List.mem_singleton] at hl
    exact ⟨_, r, hl⟩

theorem not_mem_marker_print {c : Char} (hspace : c ≠ ' ') (hcaret : c ≠ '^') (n : Nat)
    (r : Span) : c ∉ Marker.print n r := by
  intro hc
  rcases List.mem_append.1 hc with hc | hc
  · exact hspace (List.mem_replicate.1 hc).2
  · exact hcaret (List.mem_replicate.1 hc).2

theorem IsPrintable.lf_not_mem (h : e.IsPrintable) : ∀ l ∈ e.printedLines, '\n' ∉ l := by
  intro l hl
  rw [printedLines, echoLines, List.mem_cons, List.mem_append, List.mem_append] at hl
  rcases hl with rfl | (hl | hl) | hl
  · exact Location.lf_not_mem_print h.label h.path
  · obtain ⟨line, hline, rfl⟩ := List.mem_map.1 hl
    have hnumber : '\n' ∉ Text.ofNat line.number := Text.not_mem_ofNat rfl _
    have htext : '\n' ∉ line.text := (h.snippet line hline).2.1
    simp [SourceLine.print, hnumber, htext]
  · obtain ⟨n, r, rfl⟩ := h.mem_markerLine hl
    exact not_mem_marker_print (by decide) (by decide) n r
  · exact Text.not_mem_of_mem_splitOn hl

theorem IsPrintable.getLast?_ne (h : e.IsPrintable) :
    ∀ l ∈ e.printedLines, l.getLast? ≠ some '\r' := by
  intro l hl
  rw [printedLines, echoLines, List.mem_cons, List.mem_append, List.mem_append] at hl
  rcases hl with rfl | (hl | hl) | hl
  · rw [Location.getLast?_print h.label]
    decide
  · obtain ⟨line, hline, rfl⟩ := List.mem_map.1 hl
    have htext := (h.snippet line hline).2.2
    -- An empty source line ends with the space behind the bar.
    have hbar : (Text.ofNat line.number ++ " | ".toList).getLast? = some ' ' := by
      rw [List.getLast?_append]
      rfl
    rw [SourceLine.print, List.getLast?_append, hbar]
    cases hlast : line.text.getLast? with
    | none => decide
    | some c => rwa [hlast] at htext
  · obtain ⟨n, r, rfl⟩ := h.mem_markerLine hl
    intro hlast
    exact not_mem_marker_print (by decide) (by decide) n r (List.mem_of_getLast? hlast)
  · exact h.returns l hl

/-- A line that starts with a digit or a space neither opens a block nor an error. -/
theorem not_opens_of_head {c : Char} {s : Text} (h : c.isDigit = true ∨ c = ' ') :
    Dialect.ocaml4.opensBlock (c :: s) = false ∧ Dialect.ocaml4.opensError (c :: s) = false := by
  have hne (d : Char) (hd : d.isDigit = false) (hspace : ' ' ≠ d) : c ≠ d := by
    rintro rfl
    rcases h with h | h
    · rw [hd] at h
      cases h
    · exact hspace h.symm
  exact ⟨Text.startsWith_cons_of_ne (hne 'F' rfl (by decide)) _ _,
    Text.startsWith_cons_of_ne (hne 'E' rfl (by decide)) _ _⟩

theorem IsPrintable.not_opens_echo (h : e.IsPrintable) {l : Text} (hl : l ∈ e.echoLines) :
    Dialect.ocaml4.opensBlock l = false ∧ Dialect.ocaml4.opensError l = false := by
  rcases List.mem_append.1 hl with hl | hl
  · obtain ⟨line, -, rfl⟩ := List.mem_map.1 hl
    obtain ⟨c, s, hs, hc⟩ := line.exists_digit_print
    rw [hs]
    exact not_opens_of_head (.inl hc)
  · obtain ⟨n, r, rfl⟩ := h.mem_markerLine hl
    obtain ⟨s, hs⟩ := Marker.exists_space_print n r
    rw [hs]
    exact not_opens_of_head (.inr rfl)

theorem IsPrintable.lines_eq (h : e.IsPrintable) : (e.print .ocaml4).lines = e.printedLines := by
  rw [Text.lines, print_eq_unlines, Text.rawLines_unlines h.lf_not_mem, List.map_map]
  refine (List.map_congr_left fun l hl => ?_).trans (List.map_id _)
  exact Text.chomp_line (h.lf_not_mem l hl) (h.getLast?_ne l hl)

/-! ### Blocks -/

/-- What the lines between the location and the text are read as. -/
def echoes (e : PlainError) : List Echo :=
  e.snippet.map (fun l => .source (Text.ofNat l.number).size l) ++ e.markerLine.map .carets

theorem IsPrintable.mapM_echoes (h : e.IsPrintable) :
    e.echoLines.mapM (fun line => require (Failure.unexpectedLine line) (Echo.read? line)) =
      .ok e.echoes := by
  refine Echo.mapM_echoes_eq_ok_iff.2 (List.rel_append ?_ ?_)
  · rw [List.forall₂_map_left_iff, List.forall₂_map_right_iff, List.forall₂_same]
    exact fun l hl => Echo.isFrom_source_print (h.snippet l hl).1
  · rw [List.forall₂_map_right_iff, List.forall₂_same]
    intro l hl
    rcases h.markerLine_eq with ⟨-, hnil⟩ | ⟨r, last, -, -, hlt, -, hline⟩
    · rw [hnil] at hl
      cases hl
    · rw [hline, List.mem_singleton] at hl
      rw [hl]
      exact Echo.isFrom_carets_print hlt _

theorem filterMap_source?_echoes (e : PlainError) :
    e.echoes.filterMap Echo.source? = e.snippet.map fun l => ((Text.ofNat l.number).size, l) := by
  have hsource : Echo.source? ∘ (fun l : SourceLine => .source (Text.ofNat l.number).size l) =
      some ∘ fun l => ((Text.ofNat l.number).size, l) := rfl
  have hcarets : Echo.source? ∘ Echo.carets = fun _ => none := rfl
  rw [echoes, List.filterMap_append, List.filterMap_map, List.filterMap_map, hsource, hcarets,
    List.filterMap_eq_map, List.filterMap_none, List.append_nil]

theorem filterMap_carets?_echoes (e : PlainError) :
    e.echoes.filterMap Echo.carets? = e.markerLine := by
  have hsource : Echo.carets? ∘ (fun l : SourceLine => .source (Text.ofNat l.number).size l) =
      fun _ => none := rfl
  have hcarets : Echo.carets? ∘ Echo.carets = some := rfl
  rw [echoes, List.filterMap_append, List.filterMap_map, List.filterMap_map, hsource, hcarets,
    List.filterMap_none, List.filterMap_some, List.nil_append]

theorem IsPrintable.marker?_echoes (h : e.IsPrintable) : Diagnostic.marker? e.echoes = e.marker := by
  rw [Diagnostic.marker?, filterMap_source?_echoes, filterMap_carets?_echoes, List.getLast?_map]
  rcases h.markerLine_eq with ⟨hnone, hnil⟩ | ⟨r, last, hsome, hlast, hlt, hslice, hline⟩
  · rw [hnone, hnil]
    cases e.snippet.getLast? with
    | none => rfl
    | some last => rfl
  · rw [hsome, hline, hlast]
    exact Marker.span?_print hlt hslice _

theorem IsPrintable.kind_eq (h : e.IsPrintable) {first : Text} {rest : List Text}
    (htext : e.text.splitOn '\n' = first :: rest) (hjoin : Text.joinLines (first :: rest) = e.text)
    (style : PathStyle) : Kind.parse .ocaml4 style first rest = .ok (.plain e.text) := by
  have hdescription := h.description
  rw [htext] at hdescription
  obtain ⟨hexpression, hinterface⟩ := hdescription first rfl
  simp only [Kind.parse, hexpression, hinterface, hjoin, h.trimEnd]
  rfl

theorem IsPrintable.parseBody_eq (h : e.IsPrintable) (style : PathStyle) (location : Location) :
    Diagnostic.parseBody .ocaml4 style location (e.echoLines ++ e.text.splitOn '\n') =
      .ok ⟨location, e.snippet, e.marker, .plain e.text⟩ := by
  obtain ⟨first, rest, htext, hopens, hjoin⟩ := h.text_eq
  have hecho : ∀ l ∈ e.echoLines, (!Dialect.ocaml4.opensError l) = true := by
    intro l hl
    rw [(h.not_opens_echo hl).2]
    rfl
  have htake : (e.echoLines ++ first :: rest).takeWhile (!Dialect.ocaml4.opensError ·) =
      e.echoLines :=
    takeWhile_append_cons hecho (by simpa using hopens)
  have hdrop : (e.echoLines ++ first :: rest).dropWhile (!Dialect.ocaml4.opensError ·) =
      first :: rest :=
    dropWhile_append_cons hecho (by simpa using hopens)
  have hsnippet : (e.snippet.map fun l => ((Text.ofNat l.number).size, l)).map (·.2) = e.snippet := by
    rw [List.map_map]
    exact List.map_id e.snippet
  rw [Diagnostic.parseBody, htext, htake, hdrop, h.mapM_echoes]
  simp only [bind, Except.bind, h.kind_eq htext hjoin style, filterMap_source?_echoes, hsnippet,
    h.marker?_echoes]
  rfl

/-- A block with the text of a printable error is read as the diagnostic of the error. -/
theorem IsPrintable.parse_eq (h : e.IsPrintable) (index : Nat) (style : PathStyle) :
    Diagnostic.parse .ocaml4 style ⟨index, e.print .ocaml4⟩ =
      .ok (e.diagnostic.mapPath style) := by
  have hlines : Block.lines ⟨index, e.print .ocaml4⟩ = e.printedLines := h.lines_eq
  rw [Diagnostic.parse, hlines, printedLines]
  simp only [Location.parse_print h.location, bind, Except.bind, h.parseBody_eq]
  rfl

/-! ### Streams -/

/-- A stream of printed errors, as the compiler prints it. -/
def printAll (es : List PlainError) : Text := es.flatMap (·.print .ocaml4)

theorem rawLines_printAll (es : List PlainError) :
    (printAll es).rawLines = ((es.map (·.print .ocaml4)).map Text.rawLines).flatten := by
  induction es with
  | nil => rfl
  | cons e es ih =>
      have hends : Text.EndsLine (e.print .ocaml4) := by
        rw [print_eq_unlines]
        exact Text.endsLine_unlines _
      have hcons : printAll (e :: es) = e.print .ocaml4 ++ printAll es := rfl
      rw [hcons, Text.rawLines_append hends, ih]
      rfl

theorem opensBlock_line (l : Text) :
    Dialect.ocaml4.opensBlock (l ++ ['\n']) = Dialect.ocaml4.opensBlock l := by
  -- The opening has no line feed, so it cannot be the whole line with its end.
  have hopening : '\n' ∉ Dialect.ocaml4.locationOpening := by decide
  rw [Bool.eq_iff_iff]
  unfold Dialect.opensBlock
  rw [Text.startsWith_iff, Text.startsWith_iff, List.prefix_concat_iff]
  refine or_iff_right ?_
  intro h
  rw [h] at hopening
  simp at hopening

/-- A printed error has one opening line, its first. -/
theorem IsPrintable.opens (h : e.IsPrintable) :
    ∃ first rest, (e.print .ocaml4).rawLines = first :: rest ∧
      Dialect.ocaml4.opensBlock first = true ∧
      ∀ l ∈ rest, Dialect.ocaml4.opensBlock l = false := by
  rw [print_eq_unlines, Text.rawLines_unlines h.lf_not_mem, printedLines, List.map_cons]
  refine ⟨_, _, rfl, ?_, ?_⟩
  · rw [opensBlock_line, Location.print_eq]
    exact Text.startsWith_iff.2 ⟨_, rfl⟩
  · intro l hl
    obtain ⟨line, hline, rfl⟩ := List.mem_map.1 hl
    rw [opensBlock_line]
    rcases List.mem_append.1 hline with hline | hline
    · exact (h.not_opens_echo hline).1
    · obtain ⟨first, rest, htext, hopens, -⟩ := h.text_eq
      have hblocks := h.blocks
      rw [htext] at hline hblocks
      rcases List.mem_cons.1 hline with rfl | hline
      · obtain ⟨s, rfl⟩ := Text.startsWith_iff.1 hopens
        exact Text.startsWith_cons_of_ne (by decide) _ _
      · exact hblocks line hline

/-- Each printed error is a block of its own. -/
theorem split_printAll {es : List PlainError} (h : ∀ e ∈ es, e.IsPrintable) :
    Block.split .ocaml4 (printAll es) = .ok (Block.number (es.map (·.print .ocaml4))) := by
  have htexts := Block.text_number (es.map (·.print .ocaml4))
  have hpartition : Block.IsPartition .ocaml4 (printAll es) []
      (Block.number (es.map (·.print .ocaml4))) := by
    constructor
    case flatten_eq =>
      rw [htexts, printAll, List.flatMap_def]
      rfl
    case rawLines_eq =>
      have hmap (blocks : List Block) :
          blocks.map (·.text.rawLines) = (blocks.map (·.text)).map Text.rawLines := by simp
      rw [hmap, htexts, rawLines_printAll]
      rfl
    case blank => exact fun l hl => absurd hl List.not_mem_nil
    case index => exact fun k b hb => Block.index_number hb
    case opens =>
      intro b hb
      have htext := List.mem_map_of_mem (f := (·.text)) hb
      rw [htexts] at htext
      obtain ⟨e, he, heq⟩ := List.mem_map.1 htext
      rw [← heq]
      exact (h e he).opens
  have hlead := hpartition.lead_eq
  rw [hlead] at hpartition
  exact Block.split_eq_ok_iff.2 hpartition

theorem mapM_number (d : Dialect) (style : PathStyle) (texts : List Text) :
    (Block.number texts).mapM (Diagnostic.parse d style) =
      texts.mapM fun text => Diagnostic.parse d style ⟨0, text⟩ := by
  have hmap := List.mapM_map (f := (·.text)) (g := fun text => Diagnostic.parse d style ⟨0, text⟩)
    (l := Block.number texts)
  rw [Block.text_number] at hmap
  exact hmap.symm

/-- A stream of printed errors is read back, error by error and in order. -/
theorem parseAll_printAll {es : List PlainError} (h : ∀ e ∈ es, e.IsPrintable) :
    Diagnostic.parseAll .ocaml4 id (es.flatMap (·.print .ocaml4)) =
      .ok (es.map (·.diagnostic)) := by
  have hsplit := split_printAll h
  have hparse : (es.map (·.print .ocaml4)).mapM
      (fun text => Diagnostic.parse .ocaml4 id ⟨0, text⟩) = .ok (es.map (·.diagnostic)) := by
    rw [mapM_eq_ok_iff, List.forall₂_map_left_iff, List.forall₂_map_right_iff, List.forall₂_same]
    intro e he
    exact (h e he).parse_eq 0 id
  rw [Diagnostic.parseAll, ← printAll, hsplit]
  show (Block.number (es.map (·.print .ocaml4))).mapM (Diagnostic.parse .ocaml4 id) = _
  rw [mapM_number, hparse]

/-- An error with an echo of two lines and a marker, and one with nothing but its text. -/
theorem parseAll_two_errors :
    Diagnostic.parseAll .ocaml4 id
      ("File \"a, b:1.ml\", lines 9-10, characters 4-7:\n".toList ++
        "9 | let é = \n10 |  é | λ\n      ^^\nError: Unbound value é\n\nHint: File \"\n".toList ++
        "File \"\", line 1:\nError:\n".toList) =
      .ok [⟨⟨"a, b:1.ml".toList, 9, 10, some (4, 7), none⟩,
            [⟨9, "let é = ".toList⟩, ⟨10, " é | λ".toList⟩], some ⟨1, 3⟩,
            .plain "Error: Unbound value é\n\nHint: File \"".toList⟩,
          ⟨⟨[], 1, 1, none, none⟩, [], none, .plain "Error:".toList⟩] := by
  have h : ∀ e ∈ ([⟨⟨"a, b:1.ml".toList, 9, 10, some (4, 7), none⟩,
            [⟨9, "let é = ".toList⟩, ⟨10, " é | λ".toList⟩], some ⟨1, 3⟩,
            "Error: Unbound value é\n\nHint: File \"".toList⟩,
          ⟨⟨[], 1, 1, none, none⟩, [], none, "Error:".toList⟩] : List PlainError),
      e.IsPrintable := by
    rw [List.forall_mem_cons, List.forall_mem_singleton]
    constructor
    · exact ⟨⟨by decide, by decide, by decide, by decide, by simp⟩, by decide, rfl, by decide,
        by decide, by decide, by decide, by decide, by decide, by decide⟩
    · exact ⟨⟨by decide, by decide, by decide, by simp, by simp⟩, by decide, rfl, by simp, by simp,
        by decide, by decide, by decide, by decide, by decide⟩
  refine (congrArg (Diagnostic.parseAll .ocaml4 id) ?_).trans (parseAll_printAll h)
  decide +kernel

end PlainError
end TypeReport
