import TypeReport.Proofs.Run.Policies

/-! # The protocol of a run

A writer can rely on the order of the events of a run.  A run that is given up, or that
finds no blocks, has none.  Any other run says how many blocks there are, takes them up
one by one in order, reports each as read or as skipped, and at the end says how many
were skipped (`Protocol`).  A run under `abort` skips none (`ofText_protocol`).  A run that
is given up has found something that is no block, or under `abort` a block that cannot be
read (`exists_result_eq_error_iff`). -/

namespace TypeReport

/-- Whether an event reports the block at a place. -/
def Event.ReportsPlace (k : Nat) : Event → Prop
  | diagnostic index _ => index = k
  | skipped s => s.index = k
  | _ => False

namespace Run

/-! ### The order of events -/

/-- The events that take up the blocks from place `k` on, of `total` blocks, and skip `failed` of
them. -/
inductive TakesUp (total : Nat) : Nat → Nat → List Event → Prop where
  | done : TakesUp total total 0 []
  | read {k failed : Nat} {events : List Event} (e : Diagnostic)
      (rest : TakesUp total (k + 1) failed events) :
      TakesUp total k failed (.progress total (k + 1) :: .diagnostic k e :: events)
  | skip {k failed : Nat} {events : List Event} (s : Skipped) (place : s.index = k)
      (rest : TakesUp total (k + 1) failed events) :
      TakesUp total k (failed + 1) (.progress total (k + 1) :: .skipped s :: events)

/-- The events of a run over `total` blocks, of which `failed` are skipped. -/
def Protocol (total failed : Nat) (events : List Event) : Prop :=
  ∃ body, TakesUp total 0 failed body ∧
    events = .start total :: body ++ [.finish total failed, .flush]

/-! ### Runs -/

variable {d : Dialect} {style : PathStyle} {input : Text} {blocks : List Block}

/-- Reports that stand at their places take up all blocks from the first of these places on. -/
theorem takesUp_reports {reports : List Event} {total k : Nat} (htotal : k + reports.length = total)
    (h : ∀ i (e : Event), reports[i]? = some e → e.ReportsPlace (k + i)) :
    TakesUp total k (reports.countP isSkip)
      ((reports.zipIdx k).flatMap fun p => [.progress total (p.2 + 1), p.1]) := by
  induction reports generalizing k with
  | nil =>
      rw [List.length_nil, Nat.add_zero] at htotal
      rw [htotal]
      exact .done
  | cons e reports ih =>
      have hplace : e.ReportsPlace k := h 0 e rfl
      have hrest : TakesUp total (k + 1) (reports.countP isSkip)
          ((reports.zipIdx (k + 1)).flatMap fun p => [.progress total (p.2 + 1), p.1]) := by
        apply ih
        · rw [List.length_cons] at htotal
          omega
        · intro i e' he'
          have hi := h (i + 1) e' (by rwa [List.getElem?_cons_succ])
          rwa [Nat.add_right_comm, Nat.add_assoc]
      rw [List.zipIdx_cons, List.flatMap_cons]
      cases e with
      | diagnostic index e =>
          have hindex : index = k := hplace
          rw [hindex]
          exact .read e hrest
      | skipped s =>
          rw [List.countP_cons_of_pos rfl]
          exact .skip s hplace hrest
      | start _ => cases hplace
      | progress _ _ => cases hplace
      | finish _ _ => cases hplace
      | flush => cases hplace

theorem reportsPlace_report (b : Block) : (report d style b).ReportsPlace b.index := by
  unfold report
  split
  · rfl
  · rfl

/-- A run over blocks reports all of them, or it is given up, and then only under `abort`. -/
theorem ofText_eq_reported (style : PathStyle) (h : Block.split d input = .ok blocks)
    (hne : blocks ≠ []) (policy : Policy) :
    (∃ e, ofText d style policy input = givenUp e) ∨
      ofText d style policy input =
          reported blocks.length ((blocks.map (report d style)).countP isSkip)
            (blocks.map (report d style)) ∧
        (policy = .abort → (blocks.map (report d style)).countP isSkip = 0) := by
  cases policy with
  | isolate => exact .inr ⟨ofText_isolate h hne, nofun⟩
  | abort =>
      cases hparse : blocks.mapM (Diagnostic.parse d style) with
      | error e => exact .inl ⟨e, ofText_abort_of_error h hparse⟩
      | ok es =>
          have hskips : (blocks.map (report d style)).countP isSkip = 0 := by
            rw [map_report_of_mapM h hparse, countP_isSkip_mapIdx]
          exact .inr ⟨(ofText_eq_of_mapM h hparse).trans (ofText_isolate h hne), fun _ => hskips⟩

/-- A run is given up, finds no blocks, or reports every block. -/
theorem ofText_cases (d : Dialect) (style : PathStyle) (policy : Policy) (input : Text) :
    (∃ e, ofText d style policy input = givenUp e) ∨
      ofText d style policy input = ⟨[], .ok .noErrors⟩ ∨
      ∃ total failed reports, ofText d style policy input = reported total failed reports := by
  cases h : Block.split d input with
  | error e => exact .inl ⟨e, ofText_of_split_error h policy⟩
  | ok blocks =>
      by_cases hne : blocks = []
      · subst hne
        exact .inr (.inl (ofText_of_split_nil h policy))
      · rcases ofText_eq_reported style h hne policy with hrun | ⟨hrun, -⟩
        · exact .inl hrun
        · exact .inr (.inr ⟨_, _, _, hrun⟩)

/-- A run is given up for a stream without blocks, or under `abort` for a block. -/
theorem exists_result_eq_error_iff {policy : Policy} :
    (∃ e, (ofText d style policy input).result = .error e) ↔
      (∃ e, Block.split d input = .error e) ∨
      policy = .abort ∧ ∃ blocks, Block.split d input = .ok blocks ∧
        ∃ b ∈ blocks, ∃ e, Diagnostic.parse d style b = .error e := by
  cases hsplit : Block.split d input with
  | error e => simp [ofText_of_split_error hsplit, givenUp]
  | ok blocks =>
      obtain ⟨outcome, houtcome⟩ : ∃ outcome, (ofText d style .isolate input).result = .ok outcome :=
        exists_result_isolate hsplit
      cases policy with
      | isolate => simp [houtcome]
      | abort =>
          have hgiven : (∃ e, (ofText d style .abort input).result = .error e) ↔
              ∃ e, blocks.mapM (Diagnostic.parse d style) = .error e := by
            cases hparse : blocks.mapM (Diagnostic.parse d style) with
            | ok es => simp [ofText_eq_of_mapM hsplit hparse, houtcome]
            | error e => simp [ofText_abort_of_error hsplit hparse, givenUp]
          rw [hgiven, exists_mapM_error_iff]
          simp

theorem protocol_reported (h : Block.split d input = .ok blocks) :
    Protocol blocks.length ((blocks.map (report d style)).countP isSkip)
      (reported blocks.length ((blocks.map (report d style)).countP isSkip)
        (blocks.map (report d style))).events := by
  have hindex := (Block.split_eq_ok_iff.1 h).index
  refine ⟨_, takesUp_reports ?_ ?_, events_reported _ _ _⟩
  · rw [List.length_map, Nat.zero_add]
  · intro i e he
    rw [List.getElem?_map, Option.map_eq_some_iff] at he
    obtain ⟨b, hb, rfl⟩ := he
    rw [Nat.zero_add, ← hindex i b hb]
    exact reportsPlace_report b

theorem length_skips_reported (total failed : Nat) (reports : List Event) :
    (reported total failed reports).skips.length = reports.countP isSkip := by
  rw [skips_reported, List.length_filterMap_eq_countP]
  congr 1
  funext e
  cases e <;> rfl

/-- A run keeps to the protocol, unless it is given up or finds no blocks. -/
theorem ofText_protocol (d : Dialect) (style : PathStyle) (policy : Policy) (input : Text) :
    ((ofText d style policy input).events = [] ↔
      (∃ e, (ofText d style policy input).result = .error e) ∨
        (ofText d style policy input).result = .ok .noErrors) ∧
    ((ofText d style policy input).result = .ok .noErrors ↔ Block.split d input = .ok []) ∧
    ((ofText d style policy input).events ≠ [] →
      ∃ blocks failed, Block.split d input = .ok blocks ∧ 1 ≤ blocks.length ∧
        Protocol blocks.length failed (ofText d style policy input).events ∧
        (ofText d style policy input).skips.length = failed ∧ (policy = .abort → failed = 0) ∧
        (ofText d style policy input).result = .ok (.rendered blocks.length failed)) := by
  cases h : Block.split d input with
  | error e =>
      rw [ofText_of_split_error h]
      simp [givenUp]
  | ok blocks =>
      by_cases hne : blocks = []
      · subst hne
        rw [ofText_of_split_nil h]
        simp
      · rcases ofText_eq_reported style h hne policy with ⟨e, hrun⟩ | ⟨hrun, habort⟩
        · rw [hrun]
          simp [givenUp, hne]
        · have hevents : (ofText d style policy input).events ≠ [] := by
            rw [hrun]
            exact List.cons_ne_nil _ _
          have hresult : (ofText d style policy input).result =
              .ok (.rendered blocks.length ((blocks.map (report d style)).countP isSkip)) := by
            rw [hrun]
            rfl
          refine ⟨iff_of_false hevents ?_, iff_of_false ?_ ?_, fun _ => ?_⟩
          · simp [hresult]
          · simp [hresult]
          · simpa using hne
          · refine ⟨blocks, _, rfl, List.length_pos_iff.2 hne, ?_, ?_, habort, hresult⟩
            · rw [hrun]
              exact protocol_reported h
            · rw [hrun]
              exact length_skips_reported _ _ _

/-- Of two blocks the second has no body, so it is skipped. -/
theorem ofText_protocol_skips_second :
    (ofText .ocaml4 id .isolate
      "File \"a\", line 1:\nError: x\nFile \"b\", line 2:\n".toList).events ≠ [] ∧
    Protocol 2 1 (ofText .ocaml4 id .isolate
      "File \"a\", line 1:\nError: x\nFile \"b\", line 2:\n".toList).events := by
  have htwo : Block.split .ocaml4
      "File \"a\", line 1:\nError: x\nFile \"b\", line 2:\n".toList =
      .ok [⟨0, "File \"a\", line 1:\nError: x\n".toList⟩,
        ⟨1, "File \"b\", line 2:\n".toList⟩] := by rfl
  have hfailed : (ofText .ocaml4 id .isolate
      "File \"a\", line 1:\nError: x\nFile \"b\", line 2:\n".toList).result =
      .ok (.rendered 2 1) := by rfl
  have hevents : (ofText .ocaml4 id .isolate
      "File \"a\", line 1:\nError: x\nFile \"b\", line 2:\n".toList).events ≠ [] := by
    rw [ofText_isolate htwo (by simp)]
    exact List.cons_ne_nil _ _
  obtain ⟨blocks, failed, hblocks, -, hprotocol, -, -, hresult⟩ :=
    (ofText_protocol .ocaml4 id .isolate _).2.2 hevents
  rw [hfailed] at hresult
  rw [htwo] at hblocks
  cases hblocks
  cases hresult
  exact ⟨hevents, hprotocol⟩

end Run
end TypeReport
