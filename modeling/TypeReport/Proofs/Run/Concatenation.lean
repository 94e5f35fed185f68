import TypeReport.Proofs.Run.Policies

/-! # Streams one after the other

A stream that starts with a block can follow any stream whose last line has ended, and
then neither changes how the other is read.  The blocks of the two are those of the first
and those of the second, which are numbered on (`Block.split_append`), and each is read
and reported as it was, at its new place (`ofText_append`). -/

namespace TypeReport

namespace Runs

variable {α : Type} (opens : α → Bool)

/-- A list that starts with an opening item is cut on its own. -/
theorem cut_append (xs : List α) {ys : List α} (h : (cut opens ys).lead = []) :
    cut opens (xs ++ ys) = ⟨(cut opens xs).lead, (cut opens xs).runs ++ (cut opens ys).runs⟩ := by
  induction xs with
  | nil =>
      have hcut : cut opens ys = ⟨(cut opens ys).lead, (cut opens ys).runs⟩ := rfl
      rw [List.nil_append, hcut, h]
      rfl
  | cons x xs ih =>
      rw [List.cons_append, cut, cut, ih]
      by_cases hx : opens x = true
      · simp [hx]
      · simp [hx]

end Runs

/-! ### Blocks -/

namespace Block

/-- A block that is `n` places further on. -/
def shift (n : Nat) (b : Block) : Block := { b with index := b.index + n }

/-- Whether a stream starts with a block. -/
def Opens (d : Dialect) (input : Text) : Prop :=
  ∃ first rest, input.rawLines = first :: rest ∧ d.opensBlock first = true

theorem number_append (ss ts : List Text) :
    number (ss ++ ts) = number ss ++ (number ts).map (shift ss.length) := by
  rw [number, List.mapIdx_append, number, number, List.mapIdx_eq_zipIdx_map (l := ts),
    List.mapIdx_eq_zipIdx_map (l := ts), List.map_map]
  rfl

variable {d : Dialect} {a b : Text}

theorem lead_cut_of_opens (h : Opens d b) : (Runs.cut d.opensBlock b.rawLines).lead = [] := by
  obtain ⟨first, rest, hlines, hfirst⟩ := h
  rw [Runs.lead_cut, hlines]
  exact List.takeWhile_cons_of_neg (by simp [hfirst])

/-- A stream that starts with a block adds its blocks to those of the stream before. -/
theorem split_append (ha : a.EndsLine) (hb : Opens d b) :
    ∃ behind, split d b = .ok behind ∧
      split d (a ++ b) = (split d a).map fun before =>
        before ++ behind.map (shift before.length) := by
  have hlead := lead_cut_of_opens hb
  refine ⟨number ((Runs.cut d.opensBlock b.rawLines).runs.map List.flatten), ?_, ?_⟩
  · refine split_of_blank fun l hl => ?_
    rw [← lead_cut_rawLines, hlead] at hl
    cases hl
  · simp only [split, Text.rawLines_append ha, Runs.cut_append _ _ hlead]
    cases stray? (Runs.cut d.opensBlock a.rawLines).lead with
    | some p => rfl
    | none =>
        simp only [Except.map, List.map_append, number_append]
        rw [number, number, List.length_mapIdx]

end Block

/-! ### Events -/

namespace Event

/-- The event itself if it reports a block. -/
def report? : Event → Option Event
  | diagnostic index e => some (diagnostic index e)
  | skipped s => some (skipped s)
  | _ => none

/-- An event whose block is `n` places further on. -/
def shift (n : Nat) : Event → Event
  | diagnostic index e => diagnostic (index + n) e
  | skipped s => skipped { s with index := s.index + n }
  | e => e

end Event

/-- Number of blocks that a run has reported. -/
def Outcome.total : Outcome → Nat
  | noErrors => 0
  | rendered total _ => total

/-- Number of blocks that a run has skipped. -/
def Outcome.failed : Outcome → Nat
  | noErrors => 0
  | rendered _ failed => failed

namespace Run

/-- The events that report blocks. -/
def reports (r : Run) : List Event := r.events.filterMap Event.report?

variable {d : Dialect} {style : PathStyle} {input : Text} {blocks : List Block}

theorem report?_report (b : Block) : (report d style b).report? = some (report d style b) := by
  unfold report
  split
  · rfl
  · rfl

theorem report_shift (n : Nat) (b : Block) :
    report d style (b.shift n) = (report d style b).shift n := by
  have hparse : Diagnostic.parse d style (b.shift n) = Diagnostic.parse d style b := rfl
  unfold report
  rw [hparse]
  split
  · rfl
  · rfl

theorem countP_isSkip_shift (n : Nat) (events : List Event) :
    (events.map (Event.shift n)).countP isSkip = events.countP isSkip := by
  have hskip : isSkip ∘ Event.shift n = isSkip := by
    funext e
    cases e <;> rfl
  rw [List.countP_map, hskip]

theorem reports_isolate (h : Block.split d input = .ok blocks) :
    (ofText d style .isolate input).reports = blocks.map (report d style) := by
  by_cases hne : blocks = []
  · subst hne
    rw [ofText_of_split_nil h]
    rfl
  · rw [ofText_isolate h hne, reports, filterMap_reported _ _ _ rfl (fun _ => rfl) rfl rfl,
      List.filterMap_map]
    simp only [Function.comp_def, report?_report]
    exact congrFun List.filterMap_eq_map' blocks

theorem exists_outcome_isolate (style : PathStyle) (h : Block.split d input = .ok blocks) :
    ∃ outcome, (ofText d style .isolate input).result = .ok outcome ∧
      outcome.total = blocks.length ∧
      outcome.failed = (blocks.map (report d style)).countP isSkip := by
  by_cases hne : blocks = []
  · subst hne
    rw [ofText_of_split_nil h]
    exact ⟨.noErrors, rfl, rfl, rfl⟩
  · rw [ofText_isolate h hne]
    exact ⟨_, rfl, rfl, rfl⟩

variable {a b : Text} {before behind : List Block}

theorem map_report_shift (n : Nat) (blocks : List Block) :
    (blocks.map (Block.shift n)).map (report d style) =
      (blocks.map (report d style)).map (Event.shift n) := by
  rw [List.map_map, List.map_map]
  exact List.map_congr_left fun b _ => report_shift n b

/-- The blocks of the second stream are reported behind those of the first. -/
theorem reports_append (ha : Block.split d a = .ok before) (hb : Block.split d b = .ok behind)
    (hboth : Block.split d (a ++ b) = .ok (before ++ behind.map (Block.shift before.length))) :
    (ofText d style .isolate (a ++ b)).reports = (ofText d style .isolate a).reports ++
      (ofText d style .isolate b).reports.map (Event.shift before.length) := by
  rw [reports_isolate ha, reports_isolate hb, reports_isolate hboth, List.map_append,
    map_report_shift]

theorem exists_outcome_append (style : PathStyle) (ha : Block.split d a = .ok before)
    (hb : Block.split d b = .ok behind)
    (hboth : Block.split d (a ++ b) = .ok (before ++ behind.map (Block.shift before.length))) :
    ∃ first second both, (ofText d style .isolate a).result = .ok first ∧
      (ofText d style .isolate b).result = .ok second ∧
      (ofText d style .isolate (a ++ b)).result = .ok both ∧
      both.total = first.total + second.total ∧ both.failed = first.failed + second.failed := by
  obtain ⟨first, hfirst, htotal₁, hfailed₁⟩ := exists_outcome_isolate style ha
  obtain ⟨second, hsecond, htotal₂, hfailed₂⟩ := exists_outcome_isolate style hb
  obtain ⟨both, hresult, htotal, hfailed⟩ := exists_outcome_isolate style hboth
  refine ⟨first, second, both, hfirst, hsecond, hresult, ?_, ?_⟩
  · rw [htotal, htotal₁, htotal₂, List.length_append, List.length_map]
  · rw [hfailed, hfailed₁, hfailed₂, List.map_append, map_report_shift, List.countP_append,
      countP_isSkip_shift]

theorem parseAll_append (ha : Block.split d a = .ok before) (hb : Block.split d b = .ok behind)
    (hboth : Block.split d (a ++ b) = .ok (before ++ behind.map (Block.shift before.length))) :
    Diagnostic.parseAll d style (a ++ b) = do
      return (← Diagnostic.parseAll d style a) ++ (← Diagnostic.parseAll d style b) := by
  have hparse : (behind.map (Block.shift before.length)).mapM (Diagnostic.parse d style) =
      behind.mapM (Diagnostic.parse d style) := by
    rw [List.mapM_map]
    rfl
  rw [parseAll_of_split ha, parseAll_of_split hb, parseAll_of_split hboth, List.mapM_append, hparse]

/-- A stream of blocks behind another is read as if it stood alone, up to the places of its
blocks. -/
theorem ofText_append (d : Dialect) (style : PathStyle) {a b : Text} (ha : a.EndsLine)
    (hb : Block.Opens d b) :
    (∀ e, Block.split d a = .error e → Block.split d (a ++ b) = .error e) ∧
    (∀ blocks, Block.split d a = .ok blocks →
      (ofText d style .isolate (a ++ b)).reports =
        (ofText d style .isolate a).reports ++
          (ofText d style .isolate b).reports.map (Event.shift blocks.length) ∧
      ∃ first second both, (ofText d style .isolate a).result = .ok first ∧
        (ofText d style .isolate b).result = .ok second ∧
        (ofText d style .isolate (a ++ b)).result = .ok both ∧
        both.total = first.total + second.total ∧ both.failed = first.failed + second.failed) ∧
    Diagnostic.parseAll d style (a ++ b) = do
      return (← Diagnostic.parseAll d style a) ++ (← Diagnostic.parseAll d style b) := by
  obtain ⟨behind, hbehind, hboth⟩ := Block.split_append ha hb
  cases hbefore : Block.split d a with
  | error e =>
      rw [hbefore] at hboth
      refine ⟨fun e' h => h ▸ hboth, fun blocks h => ?_, ?_⟩
      · cases h
      · simp only [Diagnostic.parseAll, hbefore, hboth, Except.map]
        rfl
  | ok before =>
      rw [hbefore] at hboth
      refine ⟨fun e h => ?_, fun blocks h => ?_, parseAll_append hbefore hbehind hboth⟩
      · cases h
      · cases h
        exact ⟨reports_append hbefore hbehind hboth,
          exists_outcome_append style hbefore hbehind hboth⟩

/-- A block that can be read, with a blank line before it, and then one without a body. -/
theorem ofText_append_missing_body :
    Text.EndsLine "\nFile \"a\", line 1:\nError: x\n".toList ∧
    Block.Opens .ocaml4 "File \"b\", line 2:\n".toList ∧
    (ofText .ocaml4 id .isolate
      ("\nFile \"a\", line 1:\nError: x\n".toList ++ "File \"b\", line 2:\n".toList)).reports =
      (ofText .ocaml4 id .isolate "\nFile \"a\", line 1:\nError: x\n".toList).reports ++
        (ofText .ocaml4 id .isolate "File \"b\", line 2:\n".toList).reports.map
          (Event.shift 1) := by
  have hends : Text.EndsLine "\nFile \"a\", line 1:\nError: x\n".toList := .inr (by decide)
  have hopens : Block.Opens .ocaml4 "File \"b\", line 2:\n".toList :=
    ⟨"File \"b\", line 2:\n".toList, [], by decide, by decide⟩
  have hone : Block.split .ocaml4 "\nFile \"a\", line 1:\nError: x\n".toList =
      .ok [⟨0, "File \"a\", line 1:\nError: x\n".toList⟩] := by rfl
  exact ⟨hends, hopens, ((ofText_append .ocaml4 id hends hopens).2.1 _ hone).1⟩

end Run
end TypeReport
