import TypeReport.Proofs.Run.Policies
import TypeReport.Proofs.Text.LineEnds

/-! # Streams with either line end

A stream whose lines end with a carriage return and a line feed is cut into blocks at the
same lines as the stream with line feeds alone (`Block.split_crlf`).  The blocks keep the
carriage returns in their texts, but have the same lines, and more is not looked at when a
block is read.  So both streams are read alike, and runs over them report the same
(`ofText_crlf`). -/

namespace TypeReport

namespace Runs

variable {α β : Type}

/-- Items that are replaced by others which open runs alike leave the runs where they are. -/
theorem cut_map {f : α → β} {opens : α → Bool} {opens' : β → Bool}
    (h : ∀ x, opens' (f x) = opens x) (xs : List α) :
    cut opens' (xs.map f) = ⟨(cut opens xs).lead.map f, (cut opens xs).runs.map (List.map f)⟩ := by
  induction xs with
  | nil => rfl
  | cons x xs ih =>
      rw [List.map_cons, cut, cut, ih, h]
      by_cases hx : opens x = true
      · simp [hx]
      · simp [hx]

end Runs

namespace Block

/-- A block with a carriage return before each of its line feeds. -/
def crlf (b : Block) : Block := { b with text := b.text.crlf }

theorem number_map_crlf (texts : List Text) :
    number (texts.map Text.crlf) = (number texts).map crlf := by
  rw [number, number, List.mapIdx_eq_zipIdx_map, List.mapIdx_eq_zipIdx_map, List.zipIdx_map,
    List.map_map, List.map_map]
  rfl

/-- Whether a dialect tells the first line of a block by characters that are no part of a line
end. -/
structure OpensWithinLine (d : Dialect) : Prop where
  lf : '\n' ∉ d.locationOpening
  cr : '\r' ∉ d.locationOpening

theorem opensWithinLine_ocaml4 : OpensWithinLine .ocaml4 := ⟨by decide, by decide⟩

variable {d : Dialect}

theorem OpensWithinLine.opensBlock_crlf (h : OpensWithinLine d) (line : Text) :
    d.opensBlock line.crlf = d.opensBlock line := Text.startsWith_crlf h.lf h.cr line

/-- The stray line is the same one, with its other end. -/
theorem stray?_map_crlf (ls : List Text) :
    stray? (ls.map Text.crlf) = (stray? ls).map fun p => (p.1.crlf, p.2) := by
  have hblank : (fun p : Text × Nat => !p.1.isBlank) ∘ Prod.map Text.crlf id =
      fun p => !p.1.isBlank := by
    funext p
    exact congrArg (!·) (Text.isBlank_crlf p.1)
  rw [stray?, stray?, List.zipIdx_map, List.find?_map, hblank]
  rfl

theorem mem_rawLines_of_stray? {input line : Text} {n : Nat}
    (h : stray? (leadLines d input) = some (line, n)) : line ∈ input.rawLines := by
  obtain ⟨before, behind, hlead, -⟩ := stray?_eq_some_iff.1 h
  have hmem : line ∈ leadLines d input := by simp [hlead]
  exact List.takeWhile_subset _ hmem

/-- A stream is cut at the same lines, whichever ends they have. -/
theorem split_crlf (h : OpensWithinLine d) (input : Text) :
    split d input.crlf = (split d input).map (List.map crlf) := by
  have hcut := Runs.cut_map h.opensBlock_crlf input.rawLines
  simp only [split, Text.rawLines_crlf, hcut, stray?_map_crlf]
  cases hstray : stray? (Runs.cut d.opensBlock input.rawLines).lead with
  | some p =>
      rw [lead_cut_rawLines] at hstray
      have hline := mem_rawLines_of_stray? hstray
      simp [Except.map, Text.trimEnd_crlf hline]
  | none =>
      have hflatten : (Runs.cut d.opensBlock input.rawLines).runs.map
          (List.flatten ∘ List.map Text.crlf) =
          ((Runs.cut d.opensBlock input.rawLines).runs.map List.flatten).map Text.crlf := by
        rw [List.map_map]
        exact List.map_congr_left fun run _ => (Text.crlf_flatten run).symm
      simp only [Option.map_none, Except.map, List.map_map]
      rw [hflatten, number_map_crlf]

theorem cr_not_mem_text {input : Text} {blocks : List Block} (h : split d input = .ok blocks)
    (hcr : '\r' ∉ input) {b : Block} (hb : b ∈ blocks) : '\r' ∉ b.text := by
  have hflatten := (split_eq_ok_iff.1 h).flatten_eq
  intro hmem
  apply hcr
  rw [← hflatten]
  exact List.mem_append_right _ (List.mem_flatten.2 ⟨b.text, List.mem_map_of_mem hb, hmem⟩)

theorem lines_crlf {b : Block} (h : '\r' ∉ b.text) : b.crlf.lines = b.lines := Text.lines_crlf h

end Block

namespace Run

variable {d : Dialect} {style : PathStyle}

theorem parse_crlf {b : Block} (h : '\r' ∉ b.text) :
    Diagnostic.parse d style b.crlf = Diagnostic.parse d style b := by
  unfold Diagnostic.parse
  rw [Block.lines_crlf h]

theorem report_crlf {b : Block} (h : '\r' ∉ b.text) :
    report d style b.crlf = report d style b := by
  have hskip (e : Failure) : skip d style b.crlf e = skip d style b e := by
    unfold skip Block.firstLine?
    rw [Block.lines_crlf h]
    rfl
  unfold report
  rw [parse_crlf h]
  split
  · rfl
  · rw [hskip]

theorem ofText_congr {a b : Text} {as bs : List Block} (ha : Block.split d a = .ok as)
    (hb : Block.split d b = .ok bs)
    (hparse : as.mapM (Diagnostic.parse d style) = bs.mapM (Diagnostic.parse d style))
    (hreports : as.map (report d style) = bs.map (report d style)) (policy : Policy) :
    ofText d style policy a = ofText d style policy b := by
  have hlength : as.length = bs.length := by simpa using congrArg List.length hreports
  by_cases hne : as = []
  · subst hne
    have hbs : bs = [] := List.length_eq_zero_iff.1 hlength.symm
    rw [ofText_of_split_nil ha, ofText_of_split_nil (hbs ▸ hb)]
  · have hbs : bs ≠ [] := fun hbs => hne (List.length_eq_zero_iff.1 (by rw [hlength, hbs]; rfl))
    cases policy with
    | isolate => rw [ofText_isolate ha hne, ofText_isolate hb hbs, hreports, hlength]
    | abort =>
        cases h : bs.mapM (Diagnostic.parse d style) with
        | error e =>
            rw [ofText_abort_of_error ha (hparse.trans h), ofText_abort_of_error hb h]
        | ok es =>
            rw [ofText_abort_of_ok ha hne (hparse.trans h), ofText_abort_of_ok hb hbs h, hlength]

theorem ofText_crlf_of_error {input : Text} {e : Failure}
    (hinput : Block.split d input = .error e) (hcrlf : Block.split d input.crlf = .error e)
    (policy : Policy) :
    Diagnostic.parseAll d style input.crlf = Diagnostic.parseAll d style input ∧
      ofText d style policy input.crlf = ofText d style policy input := by
  constructor
  · simp only [Diagnostic.parseAll, hcrlf, hinput]
  · rw [ofText_of_split_error hcrlf, ofText_of_split_error hinput]

/-- Blocks without carriage returns are read the same with them. -/
theorem ofText_crlf_of_ok {input : Text} {blocks : List Block} (hcr : ∀ b ∈ blocks, '\r' ∉ b.text)
    (hinput : Block.split d input = .ok blocks)
    (hcrlf : Block.split d input.crlf = .ok (blocks.map Block.crlf)) (policy : Policy) :
    Diagnostic.parseAll d style input.crlf = Diagnostic.parseAll d style input ∧
      ofText d style policy input.crlf = ofText d style policy input := by
  have hparse : (blocks.map Block.crlf).mapM (Diagnostic.parse d style) =
      blocks.mapM (Diagnostic.parse d style) := by
    rw [List.mapM_map]
    exact mapM_congr fun b hb => parse_crlf (hcr b hb)
  have hreports : (blocks.map Block.crlf).map (report d style) = blocks.map (report d style) := by
    rw [List.map_map]
    exact List.map_congr_left fun b hb => report_crlf (hcr b hb)
  constructor
  · rw [parseAll_of_split hcrlf, parseAll_of_split hinput, hparse]
  · exact ofText_congr hcrlf hinput hparse hreports policy

/-- A stream is read the same with either line end. -/
theorem ofText_crlf (style : PathStyle) (policy : Policy) {input : Text} (h : '\r' ∉ input) :
    (Block.split .ocaml4 input.crlf).map (List.map fun b => (b.index, b.lines)) =
      (Block.split .ocaml4 input).map (List.map fun b => (b.index, b.lines)) ∧
    Diagnostic.parseAll .ocaml4 style input.crlf = Diagnostic.parseAll .ocaml4 style input ∧
    ofText .ocaml4 style policy input.crlf = ofText .ocaml4 style policy input := by
  have hcrlf := Block.split_crlf Block.opensWithinLine_ocaml4 input
  cases hinput : Block.split .ocaml4 input with
  | error e =>
      rw [hinput] at hcrlf
      refine ⟨?_, ofText_crlf_of_error hinput hcrlf policy⟩
      rw [hcrlf]
      rfl
  | ok blocks =>
      rw [hinput] at hcrlf
      have hcr : ∀ b ∈ blocks, '\r' ∉ b.text := fun b => Block.cr_not_mem_text hinput h
      refine ⟨?_, ofText_crlf_of_ok hcr hinput hcrlf policy⟩
      rw [hcrlf]
      simp only [Except.map, List.map_map]
      congr 1
      exact List.map_congr_left fun b hb => congrArg (b.index, ·) (Block.lines_crlf (hcr b hb))

/-- A block with a source line, and one that is skipped for a stray line. -/
theorem ofText_crlf_two_blocks :
    '\r' ∉ "File \"a\", line 1:\n1 | x\nError: y\nFile \"b\", line 2:\nz".toList ∧
    ofText .ocaml4 id .isolate
        "File \"a\", line 1:\r\n1 | x\r\nError: y\r\nFile \"b\", line 2:\r\nz".toList =
      ofText .ocaml4 id .isolate
        "File \"a\", line 1:\n1 | x\nError: y\nFile \"b\", line 2:\nz".toList := by
  have hcr : '\r' ∉ "File \"a\", line 1:\n1 | x\nError: y\nFile \"b\", line 2:\nz".toList := by
    decide
  have hcrlf : "File \"a\", line 1:\r\n1 | x\r\nError: y\r\nFile \"b\", line 2:\r\nz".toList =
      Text.crlf "File \"a\", line 1:\n1 | x\nError: y\nFile \"b\", line 2:\nz".toList := by
    decide
  refine ⟨hcr, ?_⟩
  rw [hcrlf]
  exact (ofText_crlf id .isolate hcr).2.2

end Run
end TypeReport
