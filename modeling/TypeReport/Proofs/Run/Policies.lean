import TypeReport.Proofs.Run.Reports

/-! # The two policies

Both policies read the same blocks in the same order, so they differ only when a
block cannot be read.  Until then they report the same events, and these hand over
what `Diagnostic.parseAll` returns.  The failure that makes a run under `abort` give
up is the one that `isolate` reports first (`ofText_policies`). -/

namespace TypeReport.Run

variable {d : Dialect} {style : PathStyle} {input : Text} {blocks : List Block}

theorem ofText_of_split_error {e : Failure} (h : Block.split d input = .error e) (policy : Policy) :
    ofText d style policy input = givenUp e := by
  simp only [ofText, h]

theorem ofText_of_split_nil (h : Block.split d input = .ok []) (policy : Policy) :
    ofText d style policy input = ⟨[], .ok .noErrors⟩ := by
  simp only [ofText, h]

theorem ofText_isolate (h : Block.split d input = .ok blocks) (hne : blocks ≠ []) :
    ofText d style .isolate input =
      reported blocks.length ((blocks.map (report d style)).countP isSkip)
        (blocks.map (report d style)) := by
  obtain ⟨b, bs, rfl⟩ := List.exists_cons_of_ne_nil hne
  rw [← placed_eq_reported h]
  simp only [ofText, h, List.countP_map]
  rfl

theorem ofText_abort_of_ok {es : List Diagnostic} (h : Block.split d input = .ok blocks)
    (hne : blocks ≠ []) (hparse : blocks.mapM (Diagnostic.parse d style) = .ok es) :
    ofText d style .abort input = reported blocks.length 0 (es.mapIdx Event.diagnostic) := by
  obtain ⟨b, bs, rfl⟩ := List.exists_cons_of_ne_nil hne
  simp only [ofText, h, hparse]

theorem ofText_abort_of_error {e : Failure} (h : Block.split d input = .ok blocks)
    (hparse : blocks.mapM (Diagnostic.parse d style) = .error e) :
    ofText d style .abort input = givenUp e := by
  cases blocks with
  | nil => cases hparse
  | cons b bs => simp only [ofText, h, hparse]

theorem parseAll_of_split (h : Block.split d input = .ok blocks) :
    Diagnostic.parseAll d style input = blocks.mapM (Diagnostic.parse d style) := by
  rw [Diagnostic.parseAll, h]
  rfl

theorem exists_result_isolate (h : Block.split d input = .ok blocks) :
    ∃ outcome, (ofText d style .isolate input).result = .ok outcome := by
  by_cases hne : blocks = []
  · subst hne
    rw [ofText_of_split_nil h]
    exact ⟨_, rfl⟩
  · rw [ofText_isolate h hne]
    exact ⟨_, rfl⟩

theorem countP_isSkip_mapIdx (es : List Diagnostic) :
    (es.mapIdx Event.diagnostic).countP isSkip = 0 := by
  rw [List.countP_eq_zero]
  intro e he
  obtain ⟨k, hk, rfl⟩ := List.mem_mapIdx.1 he
  simp [isSkip]

/-- If every block can be read, the policies make no difference. -/
theorem ofText_eq_of_mapM {es : List Diagnostic} (h : Block.split d input = .ok blocks)
    (hparse : blocks.mapM (Diagnostic.parse d style) = .ok es) :
    ofText d style .abort input = ofText d style .isolate input := by
  by_cases hne : blocks = []
  · subst hne
    rw [ofText_of_split_nil h, ofText_of_split_nil h]
  · rw [ofText_abort_of_ok h hne hparse, ofText_isolate h hne, map_report_of_mapM h hparse,
      countP_isSkip_mapIdx]

/-- If every block can be read, a run hands over their diagnostics in order and skips none. -/
theorem diagnostics_isolate {es : List Diagnostic} (h : Block.split d input = .ok blocks)
    (hparse : blocks.mapM (Diagnostic.parse d style) = .ok es) :
    (ofText d style .isolate input).diagnostics = es.mapIdx Prod.mk ∧
      (ofText d style .isolate input).skips = [] := by
  by_cases hne : blocks = []
  · subst hne
    cases hparse
    rw [ofText_of_split_nil h]
    exact ⟨rfl, rfl⟩
  · rw [ofText_isolate h hne, map_report_of_mapM h hparse, diagnostics_reported, skips_reported,
      List.mapIdx_eq_zipIdx_map, List.mapIdx_eq_zipIdx_map, List.filterMap_map, List.filterMap_map,
      ← List.filterMap_eq_map]
    exact ⟨rfl, List.filterMap_eq_nil_iff.2 fun _ _ => rfl⟩

/-- The block that cannot be read first is the first that a run under `isolate` skips. -/
theorem head?_skips_isolate {e : Failure} (h : Block.split d input = .ok blocks)
    (hparse : blocks.mapM (Diagnostic.parse d style) = .error e) :
    ∃ s, (ofText d style .isolate input).skips.head? = some s ∧ s.failure = e := by
  obtain ⟨before, b, behind, hblocks, hbefore, hb⟩ := mapM_eq_error_iff.1 hparse
  have hne : blocks ≠ [] := by simp [hblocks]
  have hread : (before.map (report d style)).filterMap Event.skipped? = [] := by
    rw [List.filterMap_eq_nil_iff]
    intro event hevent
    obtain ⟨b', hb', rfl⟩ := List.mem_map.1 hevent
    obtain ⟨e', he'⟩ := hbefore b' hb'
    rw [report_of_ok he']
    rfl
  refine ⟨skip d style b e, ?_, rfl⟩
  rw [ofText_isolate h hne, skips_reported, hblocks, List.map_append, List.filterMap_append, hread,
    List.nil_append, List.map_cons, report_of_error hb]
  rfl

/-- How runs under the two policies compare with each other and with reading all blocks. -/
theorem ofText_policies (d : Dialect) (style : PathStyle) (input : Text) :
    (∀ e, Block.split d input = .error e →
      ∀ policy, ofText d style policy input = ⟨[], .error e⟩) ∧
    (∀ blocks, Block.split d input = .ok blocks →
      ∃ outcome, (ofText d style .isolate input).result = .ok outcome) ∧
    (∀ blocks, Block.split d input = .ok blocks →
      (∀ b ∈ blocks, ∃ e, Diagnostic.parse d style b = .ok e) →
      ofText d style .abort input = ofText d style .isolate input ∧
      ∃ es, Diagnostic.parseAll d style input = .ok es ∧
        (ofText d style .isolate input).diagnostics = es.mapIdx Prod.mk ∧
        (ofText d style .isolate input).skips = []) ∧
    ∀ blocks, Block.split d input = .ok blocks →
      (∃ b ∈ blocks, ∃ e, Diagnostic.parse d style b = .error e) →
      ∃ e s, (ofText d style .isolate input).skips.head? = some s ∧ s.failure = e ∧
        ofText d style .abort input = ⟨[], .error e⟩ ∧
        Diagnostic.parseAll d style input = .error e := by
  refine ⟨fun e h => ofText_of_split_error h, fun blocks h => exists_result_isolate h, ?_, ?_⟩
  · intro blocks h hall
    obtain ⟨es, hparse⟩ := exists_mapM_ok_iff.2 hall
    obtain ⟨hdiagnostics, hskips⟩ := diagnostics_isolate h hparse
    exact ⟨ofText_eq_of_mapM h hparse, es, (parseAll_of_split h).trans hparse, hdiagnostics, hskips⟩
  · rintro blocks h ⟨b, hb, e', he'⟩
    cases hparse : blocks.mapM (Diagnostic.parse d style) with
    | ok es =>
        obtain ⟨e, he⟩ := exists_mapM_ok_iff.1 ⟨es, hparse⟩ b hb
        rw [he'] at he
        cases he
    | error e =>
        obtain ⟨s, hs, hfailure⟩ := head?_skips_isolate h hparse
        exact ⟨e, s, hs, hfailure, ofText_abort_of_error h hparse,
          (parseAll_of_split h).trans hparse⟩

/-- A stream of no blocks, one whose blocks can be read, and one whose second block has no body. -/
theorem ofText_policies_sample :
    (∀ policy, ofText .ocaml4 id policy "x".toList = ⟨[], .error (.malformedStart 1 ['x'])⟩) ∧
    ofText .ocaml4 id .abort "File \"a\", line 1:\nError: x".toList =
      ofText .ocaml4 id .isolate "File \"a\", line 1:\nError: x".toList ∧
    ∃ e s, (ofText .ocaml4 id .isolate
        "File \"a\", line 1:\nError: x\nFile \"b\", line 2:\n".toList).skips.head? = some s ∧
      s.failure = e ∧
      ofText .ocaml4 id .abort "File \"a\", line 1:\nError: x\nFile \"b\", line 2:\n".toList =
        ⟨[], .error e⟩ ∧
      ∃ outcome, (ofText .ocaml4 id .isolate
        "File \"a\", line 1:\nError: x\nFile \"b\", line 2:\n".toList).result = .ok outcome := by
  have hstray : Block.split .ocaml4 "x".toList = .error (.malformedStart 1 ['x']) := by rfl
  have hone : Block.split .ocaml4 "File \"a\", line 1:\nError: x".toList =
      .ok [⟨0, "File \"a\", line 1:\nError: x".toList⟩] := by rfl
  have hread : ∀ b ∈ [(⟨0, "File \"a\", line 1:\nError: x".toList⟩ : Block)],
      ∃ e, Diagnostic.parse .ocaml4 id b = .ok e := by
    intro b hb
    rw [List.mem_singleton.1 hb]
    exact ⟨⟨⟨['a'], 1, 1, none, none⟩, [], none, .plain "Error: x".toList⟩, by rfl⟩
  have htwo : Block.split .ocaml4
      "File \"a\", line 1:\nError: x\nFile \"b\", line 2:\n".toList =
      .ok [⟨0, "File \"a\", line 1:\nError: x\n".toList⟩,
        ⟨1, "File \"b\", line 2:\n".toList⟩] := by rfl
  have hmissing : Diagnostic.parse .ocaml4 id ⟨1, "File \"b\", line 2:\n".toList⟩ =
      .error (.missingErrorLine "b:2".toList) := by rfl
  obtain ⟨e, s, hs, he, habort, -⟩ :=
    (ofText_policies .ocaml4 id _).2.2.2 _ htwo ⟨_, by simp, _, hmissing⟩
  exact ⟨(ofText_policies .ocaml4 id _).1 _ hstray,
    ((ofText_policies .ocaml4 id _).2.2.1 _ hone hread).1, e, s, hs, he, habort,
    (ofText_policies .ocaml4 id _).2.1 _ htwo⟩

end TypeReport.Run
