import TypeReport.Proofs.Diagnostic.Failures
import TypeReport.Proofs.Run.Policies

/-! # Skipped blocks

A run under `isolate` skips the blocks that cannot be read and no others, and says of each
why it cannot be read and, if its first line is a location, where it is
(`skipped_mem_events_iff`).  A block of a stream has a first line, and whatever stands
behind that is looked at only if it is a location, so a place that is missing comes with a
failure that blames the first line (`skipped_of_isolate`). -/

namespace TypeReport

theorem Event.skipped?_eq_some_iff {e : Event} {s : Skipped} :
    e.skipped? = some s ↔ e = .skipped s := by
  cases e <;> simp [skipped?]

theorem Block.exists_lines_of_mem_split {d : Dialect} {input : Text} {blocks : List Block}
    (h : split d input = .ok blocks) {b : Block} (hb : b ∈ blocks) :
    ∃ first rest, b.lines = first :: rest := by
  obtain ⟨first, rest, hlines, -, -⟩ := (split_eq_ok_iff.1 h).opens b hb
  exact ⟨_, _, congrArg (List.map Text.chomp) hlines⟩

theorem Block.getElem?_index_of_mem_split {d : Dialect} {input : Text} {blocks : List Block}
    (h : split d input = .ok blocks) {b : Block} (hb : b ∈ blocks) : blocks[b.index]? = some b := by
  obtain ⟨k, hk⟩ := List.mem_iff_getElem?.1 hb
  rwa [(split_eq_ok_iff.1 h).index k b hk]

namespace Run

variable {d : Dialect} {style : PathStyle} {input : Text}

theorem mem_skips_iff {r : Run} {s : Skipped} : s ∈ r.skips ↔ .skipped s ∈ r.events := by
  simp only [skips, List.mem_filterMap, Event.skipped?_eq_some_iff, exists_eq_right]

theorem report_eq_skipped_iff {b : Block} {s : Skipped} : report d style b = .skipped s ↔
    ∃ e, Diagnostic.parse d style b = .error e ∧ s = skip d style b e := by
  cases h : Diagnostic.parse d style b with
  | ok e => simp [report_of_ok h]
  | error e => simp [report_of_error h, eq_comm]

/-- A run skips the blocks that cannot be read. -/
theorem skipped_mem_events_iff {s : Skipped} :
    .skipped s ∈ (ofText d style .isolate input).events ↔
      ∃ blocks, Block.split d input = .ok blocks ∧ ∃ b ∈ blocks, ∃ e,
        Diagnostic.parse d style b = .error e ∧ s = skip d style b e := by
  cases hsplit : Block.split d input with
  | error e => simp [ofText_of_split_error hsplit, givenUp]
  | ok blocks =>
      by_cases hne : blocks = []
      · subst hne
        simp [ofText_of_split_nil hsplit]
      · rw [← mem_skips_iff, ofText_isolate hsplit hne, skips_reported]
        simp [Event.skipped?_eq_some_iff, report_eq_skipped_iff]

/-- What a run says about a block that it skips. -/
theorem skipped_of_isolate (d : Dialect) (style : PathStyle) (input : Text) {s : Skipped}
    (h : .skipped s ∈ (ofText d style .isolate input).events) :
    ∃ blocks b first rest, Block.split d input = .ok blocks ∧ blocks[s.index]? = some b ∧
      b.lines = first :: rest ∧ Diagnostic.parse d style b = .error s.failure ∧
      (∀ n line, s.failure ≠ .malformedStart n line) ∧
      (∀ l, s.location = some l ↔ Location.parse d style first = .ok l) ∧
      (s.location = none → ∃ fault, s.failure = .malformedLocation first fault) ∧
      ∀ place, s.failure = .missingErrorLine place →
        ∃ l, s.location = some l ∧ l.place = place := by
  obtain ⟨blocks, hsplit, b, hb, e, he, rfl⟩ := skipped_mem_events_iff.1 h
  obtain ⟨first, rest, hlines⟩ := Block.exists_lines_of_mem_split hsplit hb
  have hindex := Block.getElem?_index_of_mem_split hsplit hb
  have hlocation (l : Location) : (skip d style b e).location = some l ↔
      Location.parse d style first = .ok l := Block.location?_eq_some_iff hlines
  rcases Diagnostic.isBehind_of_parse hlines he with ⟨-, fault, rfl⟩ | ⟨l, hsome, hbehind⟩
  · refine ⟨blocks, b, first, rest, hsplit, hindex, hlines, he, ?_, hlocation,
      fun _ => ⟨fault, rfl⟩, ?_⟩
    · intro n line h
      cases h
    · intro place h
      cases h
  · refine ⟨blocks, b, first, rest, hsplit, hindex, hlines, he, hbehind.ne_malformedStart,
      hlocation, ?_, ?_⟩
    · intro hnone
      cases hsome.symm.trans hnone
    · intro place h
      have h : e = .missingErrorLine place := h
      rw [h] at hbehind
      exact ⟨l, hsome, hbehind.place_eq⟩

/-- The first of two blocks has no body, and the second no location. -/
theorem skipped_of_isolate_two_blocks :
    .skipped ⟨0, some ⟨['a'], 1, 1, none, none⟩, .missingErrorLine "a:1".toList⟩ ∈
      (ofText .ocaml4 id .isolate "File \"a\", line 1:\nFile \"b\" x\n".toList).events ∧
    (∃ l, some (⟨['a'], 1, 1, none, none⟩ : Location) = some l ∧ l.place = "a:1".toList) ∧
    .skipped ⟨1, none, .malformedLocation "File \"b\" x".toList .missingColon⟩ ∈
      (ofText .ocaml4 id .isolate "File \"a\", line 1:\nFile \"b\" x\n".toList).events ∧
    ∃ blocks b rest,
      Block.split .ocaml4 "File \"a\", line 1:\nFile \"b\" x\n".toList = .ok blocks ∧
      blocks[1]? = some b ∧ b.lines = "File \"b\" x".toList :: rest := by
  have hbody : .skipped ⟨0, some ⟨['a'], 1, 1, none, none⟩, .missingErrorLine "a:1".toList⟩ ∈
      (ofText .ocaml4 id .isolate "File \"a\", line 1:\nFile \"b\" x\n".toList).events := by
    decide +kernel
  have hplace : .skipped ⟨1, none, .malformedLocation "File \"b\" x".toList .missingColon⟩ ∈
      (ofText .ocaml4 id .isolate "File \"a\", line 1:\nFile \"b\" x\n".toList).events := by
    decide +kernel
  obtain ⟨_, _, _, _, -, -, -, -, -, -, -, hmissing⟩ := skipped_of_isolate .ocaml4 id _ hbody
  obtain ⟨blocks, b, first, rest, hsplit, hb, hlines, -, -, -, habsent, -⟩ :=
    skipped_of_isolate .ocaml4 id _ hplace
  obtain ⟨fault, hfault⟩ := habsent rfl
  injection hfault with hfirst
  rw [← hfirst] at hlines
  exact ⟨hbody, hmissing _ rfl, hplace, blocks, b, rest, hsplit, hb, hlines⟩

end Run
end TypeReport
