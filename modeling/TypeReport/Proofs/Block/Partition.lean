import TypeReport.Block
import TypeReport.Proofs.Leading
import TypeReport.Proofs.Text.Lines

/-! # The partition of a stream

A partition of a stream is a list of blank lines and a list of blocks that make up
the stream, line by line and character by character: each block starts with an
opening line and has no other, and the blocks are numbered from zero
(`IsPartition`).  The lines before the first opening line decide whether there is
one.  If they are all blank there is exactly one, and `split` finds it; otherwise
`split` blames the first that is not (`split_iff_isPartition`). -/

namespace TypeReport

namespace Runs

variable {α : Type} (opens : α → Bool)

theorem lead_cut (xs : List α) : (cut opens xs).lead = xs.takeWhile (!opens ·) := by
  induction xs with
  | nil => rfl
  | cons x xs ih =>
      unfold cut
      split
      · next hx => simp [hx]
      · next hx => simp [hx, ih]

theorem length_runs_cut (xs : List α) : (cut opens xs).runs.length = xs.countP opens := by
  induction xs with
  | nil => rfl
  | cons x xs ih =>
      unfold cut
      split
      · next hx => simp [hx, ih]
      · next hx => simp [hx, ih]

end Runs

namespace Block

/-! ### Numbering -/

theorem text_number (texts : List Text) : (number texts).map (·.text) = texts := by
  refine List.ext_getElem? fun k => ?_
  rw [number, List.getElem?_map, List.getElem?_mapIdx, Option.map_map]
  exact Option.map_id'

theorem index_number {texts : List Text} {k : Nat} {b : Block}
    (h : (number texts)[k]? = some b) : b.index = k := by
  rw [number, List.getElem?_mapIdx, Option.map_eq_some_iff] at h
  obtain ⟨text, -, rfl⟩ := h
  rfl

/-- Blocks are determined by their texts once each has its place as its index. -/
theorem number_text {blocks : List Block}
    (h : ∀ k (b : Block), blocks[k]? = some b → b.index = k) :
    number (blocks.map (·.text)) = blocks := by
  refine List.ext_getElem? fun k => ?_
  rw [number, List.getElem?_mapIdx, List.getElem?_map]
  cases hb : blocks[k]? with
  | none => rfl
  | some b =>
      have := h k b hb
      subst this
      rfl

/-! ### Partitions -/

/-- The lines of a stream before the first that opens a block. -/
def leadLines (d : Dialect) (input : Text) : List Text :=
  input.rawLines.takeWhile (!d.opensBlock ·)

/-- Whether a stream consists of blank lines and, behind them, blocks that each have one opening
line, their first.  Nothing is lost, added or moved, and cuts are between lines only. -/
structure IsPartition (d : Dialect) (input : Text) (lead : List Text) (blocks : List Block) :
    Prop where
  flatten_eq : lead.flatten ++ (blocks.map (·.text)).flatten = input
  rawLines_eq : input.rawLines = lead ++ (blocks.map (·.text.rawLines)).flatten
  blank : ∀ l ∈ lead, l.isBlank = true ∧ d.opensBlock l = false
  index : ∀ k (b : Block), blocks[k]? = some b → b.index = k
  opens : ∀ b ∈ blocks, ∃ first rest, b.text.rawLines = first :: rest ∧
    d.opensBlock first = true ∧ ∀ l ∈ rest, d.opensBlock l = false

variable {d : Dialect} {input : Text}

theorem IsPartition.cut_eq {lead : List Text} {blocks : List Block}
    (h : IsPartition d input lead blocks) :
    Runs.cut d.opensBlock input.rawLines = ⟨lead, blocks.map (·.text.rawLines)⟩ := by
  rw [h.rawLines_eq]
  refine Runs.cut_eq d.opensBlock (fun l hl => (h.blank l hl).2) ?_
  intro run hrun
  obtain ⟨b, hb, rfl⟩ := List.mem_map.1 hrun
  exact h.opens b hb

theorem IsPartition.lead_eq {lead : List Text} {blocks : List Block}
    (h : IsPartition d input lead blocks) : lead = leadLines d input := by
  rw [leadLines, ← Runs.lead_cut, h.cut_eq]

theorem IsPartition.length_eq {lead : List Text} {blocks : List Block}
    (h : IsPartition d input lead blocks) :
    blocks.length = input.rawLines.countP d.opensBlock := by
  rw [← Runs.length_runs_cut, h.cut_eq, List.length_map]

theorem rawLines_flatten_run {run : List Text}
    (h : run ∈ (Runs.cut d.opensBlock input.rawLines).runs) : Text.rawLines run.flatten = run := by
  obtain ⟨before, behind, hruns⟩ := List.append_of_mem h
  have hlines := Runs.lead_append_flatten d.opensBlock input.rawLines
  rw [hruns, List.flatten_append, List.flatten_cons, ← List.append_assoc] at hlines
  have hrest := (Text.rawLines_flatten_of_append hlines.symm).2
  exact (Text.rawLines_flatten_of_append hrest).1

/-- Numbering the runs of a stream makes a partition of it if its lead is blank. -/
theorem isPartition_number (h : ∀ l ∈ leadLines d input, l.isBlank = true) :
    IsPartition d input (leadLines d input)
      (number ((Runs.cut d.opensBlock input.rawLines).runs.map List.flatten)) := by
  have hlead := Runs.lead_cut d.opensBlock input.rawLines
  have htexts := text_number ((Runs.cut d.opensBlock input.rawLines).runs.map List.flatten)
  have hlines := Runs.lead_append_flatten d.opensBlock input.rawLines
  rw [hlead, ← leadLines] at hlines
  constructor
  case flatten_eq =>
    rw [htexts, ← List.flatten_flatten, ← List.flatten_append, hlines, Text.flatten_rawLines]
  case rawLines_eq =>
    have hruns : ∀ run ∈ (Runs.cut d.opensBlock input.rawLines).runs,
        (Text.rawLines ∘ List.flatten) run = id run := fun run => rawLines_flatten_run
    have hmap : ∀ blocks : List Block,
        blocks.map (·.text.rawLines) = (blocks.map (·.text)).map Text.rawLines := by simp
    rw [hmap, htexts, List.map_map, List.map_congr_left hruns, List.map_id, hlines]
  case blank =>
    intro l hl
    refine ⟨h l hl, ?_⟩
    rw [leadLines, ← hlead] at hl
    exact Runs.not_opens_of_mem_lead d.opensBlock hl
  case index => exact fun k b hb => index_number hb
  case opens =>
    intro b hb
    have hb := List.mem_map_of_mem (f := (·.text)) hb
    rw [htexts] at hb
    obtain ⟨run, hrun, htext⟩ := List.mem_map.1 hb
    rw [← htext, rawLines_flatten_run hrun]
    exact Runs.head_of_mem_runs d.opensBlock hrun

/-! ### Splitting -/

/-- The number of the stray line counts the lines before it, on top of where counting starts. -/
theorem find?_zipIdx_isBlank (ls : List Text) (k : Nat) :
    (ls.zipIdx k).find? (!·.1.isBlank) =
      (ls.dropWhile Text.isBlank).head?.map (·, k + (ls.takeWhile Text.isBlank).length) := by
  induction ls generalizing k with
  | nil => rfl
  | cons l ls ih =>
      rw [List.zipIdx_cons, List.find?_cons]
      by_cases hl : l.isBlank = true
      · simp only [hl, Bool.not_true, ih, List.dropWhile_cons_of_pos hl,
          List.takeWhile_cons_of_pos hl, List.length_cons]
        congr 2
        funext line
        congr 1
        omega
      · simp [hl]

theorem stray?_eq_none_iff {ls : List Text} : stray? ls = none ↔ ∀ l ∈ ls, l.isBlank = true := by
  rw [stray?, find?_zipIdx_isBlank, Option.map_eq_none_iff, List.head?_eq_none_iff,
    List.dropWhile_eq_nil_iff]

/-- The stray line comes after blank lines only, and its number counts it and these. -/
theorem stray?_eq_some_iff {ls : List Text} {line : Text} {n : Nat} :
    stray? ls = some (line, n) ↔ ∃ before behind, ls = before ++ line :: behind ∧
      (∀ l ∈ before, l.isBlank = true) ∧ line.isBlank = false ∧ n = before.length + 1 := by
  rw [stray?, find?_zipIdx_isBlank, Option.map_eq_some_iff]
  constructor
  · rintro ⟨line', hline, heq⟩
    obtain ⟨rfl, rfl⟩ := Prod.mk.inj heq
    obtain ⟨behind, hbehind⟩ := List.head?_eq_some_iff.1 hline
    refine ⟨ls.takeWhile Text.isBlank, behind, ?_, ?_, ?_, Nat.add_comm _ _⟩
    · rw [← hbehind, List.takeWhile_append_dropWhile]
    · exact fun l hl => List.mem_takeWhile_imp hl
    · exact of_mem_head?_dropWhile hline
  · rintro ⟨before, behind, rfl, hbefore, hline, rfl⟩
    rw [dropWhile_append_cons hbefore hline, takeWhile_append_cons hbefore hline]
    exact ⟨line, rfl, by simp [Nat.add_comm]⟩

theorem lead_cut_rawLines (d : Dialect) (input : Text) :
    (Runs.cut d.opensBlock input.rawLines).lead = leadLines d input :=
  Runs.lead_cut d.opensBlock input.rawLines

theorem split_of_blank (h : ∀ l ∈ leadLines d input, l.isBlank = true) :
    split d input = .ok (number ((Runs.cut d.opensBlock input.rawLines).runs.map List.flatten)) := by
  simp only [split, lead_cut_rawLines, stray?_eq_none_iff.2 h]

theorem split_of_stray {line : Text} {n : Nat} (h : stray? (leadLines d input) = some (line, n)) :
    split d input = .error (.malformedStart n line.trimEnd) := by
  simp only [split, lead_cut_rawLines, h]

theorem split_eq_ok_iff {blocks : List Block} :
    split d input = .ok blocks ↔ IsPartition d input (leadLines d input) blocks := by
  constructor
  · intro h
    cases hs : stray? (leadLines d input) with
    | some p => rw [split_of_stray hs] at h; cases h
    | none =>
        have hblank := stray?_eq_none_iff.1 hs
        rw [split_of_blank hblank] at h
        cases h
        exact isPartition_number hblank
  · intro h
    rw [split_of_blank fun l hl => (h.blank l hl).1, h.cut_eq, List.map_map]
    have htexts : ∀ b ∈ blocks, (List.flatten ∘ fun b => b.text.rawLines) b = b.text :=
      fun b _ => Text.flatten_rawLines b.text
    rw [List.map_congr_left htexts, number_text h.index]

theorem split_eq_error_iff {e : Failure} :
    split d input = .error e ↔ ∃ before line behind, leadLines d input = before ++ line :: behind ∧
      (∀ l ∈ before, l.isBlank = true) ∧ line.isBlank = false ∧
      e = .malformedStart (before.length + 1) line.trimEnd := by
  constructor
  · intro h
    cases hs : stray? (leadLines d input) with
    | none => rw [split_of_blank (stray?_eq_none_iff.1 hs)] at h; cases h
    | some p =>
        obtain ⟨line, n⟩ := p
        rw [split_of_stray hs] at h
        cases h
        obtain ⟨before, behind, hlead, hbefore, hline, rfl⟩ := stray?_eq_some_iff.1 hs
        exact ⟨before, line, behind, hlead, hbefore, hline, rfl⟩
  · rintro ⟨before, line, behind, hlead, hbefore, hline, rfl⟩
    exact split_of_stray (stray?_eq_some_iff.2 ⟨before, behind, hlead, hbefore, hline, rfl⟩)

/-- A stream has a partition exactly when the lines before the first opening one are blank, and
splitting finds the only one it has; otherwise splitting blames the first that is not blank. -/
theorem split_iff_isPartition (d : Dialect) (input : Text) :
    ((∃ blocks, split d input = .ok blocks) ↔ ∀ l ∈ leadLines d input, l.isBlank = true) ∧
    (∀ lead blocks, IsPartition d input lead blocks ↔
      lead = leadLines d input ∧ split d input = .ok blocks) ∧
    (∀ blocks, split d input = .ok blocks →
      (leadLines d input).flatten ++ (blocks.map (·.text)).flatten = input ∧
      blocks.length = input.rawLines.countP d.opensBlock) ∧
    ∀ e, split d input = .error e ↔
      ∃ before line behind, leadLines d input = before ++ line :: behind ∧
        (∀ l ∈ before, l.isBlank = true) ∧ line.isBlank = false ∧
        e = .malformedStart (before.length + 1) line.trimEnd := by
  refine ⟨⟨?_, fun h => ⟨_, split_of_blank h⟩⟩, fun lead blocks => ⟨?_, ?_⟩, ?_,
    fun e => split_eq_error_iff⟩
  · rintro ⟨blocks, h⟩ l hl
    exact ((split_eq_ok_iff.1 h).blank l hl).1
  · intro h
    have hlead := h.lead_eq
    rw [hlead] at h
    exact ⟨hlead, split_eq_ok_iff.2 h⟩
  · rintro ⟨rfl, h⟩
    exact split_eq_ok_iff.1 h
  · intro blocks h
    have hpart := split_eq_ok_iff.1 h
    exact ⟨hpart.flatten_eq, hpart.length_eq⟩

/-- A blank line, a block of two lines, and a block that the end of the stream ends. -/
theorem split_blank_then_two_blocks :
    split .ocaml4 "\t\r\nFile \"a\n File \"b\nFile \"é".toList =
      .ok [⟨0, "File \"a\n File \"b\n".toList⟩, ⟨1, "File \"é".toList⟩] ∧
    (leadLines .ocaml4 "\t\r\nFile \"a\n File \"b\nFile \"é".toList).flatten ++
        "File \"a\n File \"b\nFile \"é".toList =
      "\t\r\nFile \"a\n File \"b\nFile \"é".toList := by
  have h : split .ocaml4 "\t\r\nFile \"a\n File \"b\nFile \"é".toList =
      .ok [⟨0, "File \"a\n File \"b\n".toList⟩, ⟨1, "File \"é".toList⟩] := by rfl
  exact ⟨h, ((split_iff_isPartition _ _).2.2.1 _ h).1⟩

end Block
end TypeReport
