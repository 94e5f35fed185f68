import TypeReport.Proofs.Diagnostic.Paths
import TypeReport.Proofs.Run.Policies

/-! # Paths in a run

A run in a style of paths reports what the run with paths as they are reports, with the
paths put in the style afterwards, and it ends in the same way (`ofText_eq_mapPath`).  So
a style reaches nothing but paths: whether a block can be read, what is read of it and why
it cannot be read do not depend on it (`style_reaches_only_paths`). -/

namespace TypeReport

def Skipped.mapPath (style : PathStyle) (s : Skipped) : Skipped where
  index := s.index
  location := s.location.map (·.mapPath style)
  failure := s.failure.relocate (s.location.map (·.mapPath style))

def Event.mapPath (style : PathStyle) : Event → Event
  | diagnostic index e => diagnostic index (e.mapPath style)
  | skipped s => skipped (s.mapPath style)
  | e => e

namespace Run

/-- A run with its paths normalised; `l?` is the location of the block it is given up for. -/
def mapPath (style : PathStyle) (l? : Option Location) (r : Run) : Run where
  events := r.events.map (Event.mapPath style)
  result := r.result.mapError (Failure.relocate l?)

variable (d : Dialect) (style : PathStyle)

theorem isSkip_mapPath (e : Event) : isSkip (e.mapPath style) = isSkip e := by
  cases e <;> rfl

theorem mapPath_reported (l? : Option Location) (total failed : Nat) (reports : List Event) :
    (reported total failed reports).mapPath style l? =
      reported total failed (reports.map (Event.mapPath style)) := by
  have hbody : ((reports.zipIdx.flatMap fun p => [.progress total (p.2 + 1), p.1]).map
      (Event.mapPath style)) =
      (reports.map (Event.mapPath style)).zipIdx.flatMap fun p =>
        [.progress total (p.2 + 1), p.1] := by
    rw [List.map_flatMap, List.zipIdx_map, List.flatMap_map]
    rfl
  have hevents : (reported total failed reports).events.map (Event.mapPath style) =
      (reported total failed (reports.map (Event.mapPath style))).events := by
    simp only [events_reported, List.map_append, List.map_cons, hbody]
    rfl
  rw [mapPath, hevents]
  rfl

theorem skip_eq (b : Block) (e : Failure) :
    skip d style b (e.relocate (b.location? d style)) = (skip d id b e).mapPath style := by
  have hlocation := Block.location?_eq d style b
  simp only [skip, Skipped.mapPath, Block.location?] at hlocation ⊢
  rw [hlocation]

theorem report_eq (b : Block) : report d style b = (report d id b).mapPath style := by
  have hparse := Diagnostic.parse_eq d style b
  cases h : Diagnostic.parse d id b with
  | ok e =>
      rw [h] at hparse
      rw [report_of_ok h, report_of_ok hparse]
      rfl
  | error e =>
      rw [h] at hparse
      rw [report_of_error h, report_of_error hparse, skip_eq]
      rfl

theorem map_report_eq (blocks : List Block) :
    blocks.map (report d style) = (blocks.map (report d id)).map (Event.mapPath style) := by
  rw [List.map_map]
  exact List.map_congr_left fun b _ => report_eq d style b

variable {d style} {blocks : List Block}

theorem exists_parse_of_id {b : Block} (h : ∃ e, Diagnostic.parse d id b = .ok e) :
    ∃ e, Diagnostic.parse d style b = .ok e := by
  obtain ⟨e, he⟩ := h
  rw [Diagnostic.parse_eq, he]
  exact ⟨_, rfl⟩

theorem exists_mapM_parse_of_id {es : List Diagnostic}
    (h : blocks.mapM (Diagnostic.parse d id) = .ok es) :
    ∃ es', blocks.mapM (Diagnostic.parse d style) = .ok es' :=
  exists_mapM_ok_iff.2 fun b hb => exists_parse_of_id (exists_mapM_ok_iff.1 ⟨es, h⟩ b hb)

/-- The block that cannot be read first is the same one in every style. -/
theorem mapM_parse_error_of_id {e : Failure}
    (h : blocks.mapM (Diagnostic.parse d id) = .error e) :
    ∃ l?, blocks.mapM (Diagnostic.parse d style) = .error (e.relocate l?) := by
  obtain ⟨before, b, behind, hblocks, hbefore, hb⟩ := mapM_eq_error_iff.1 h
  refine ⟨b.location? d style, mapM_eq_error_iff.2 ⟨before, b, behind, hblocks, ?_, ?_⟩⟩
  · exact fun b hb => exists_parse_of_id (hbefore b hb)
  · rw [Diagnostic.parse_eq, hb]
    rfl

variable (d style)

theorem ofText_isolate_eq {input : Text} (h : Block.split d input = .ok blocks) (hne : blocks ≠ [])
    (l? : Option Location) :
    ofText d style .isolate input = (ofText d id .isolate input).mapPath style l? := by
  have hcount : ((blocks.map (report d id)).map (Event.mapPath style)).countP isSkip =
      (blocks.map (report d id)).countP isSkip := by
    rw [List.countP_map]
    exact List.countP_congr fun e _ => by simp [isSkip_mapPath]
  rw [ofText_isolate h hne, ofText_isolate h hne, mapPath_reported, map_report_eq d style, hcount]

/-- A run in a style is the run with paths as they are, with its paths put in the style. -/
theorem ofText_eq_mapPath (policy : Policy) (input : Text) :
    ∃ l?, ofText d style policy input = (ofText d id policy input).mapPath style l? := by
  cases hsplit : Block.split d input with
  | error e =>
      rw [ofText_of_split_error hsplit, ofText_of_split_error hsplit]
      refine ⟨none, ?_⟩
      rw [mapPath, givenUp, Except.mapError, e.relocate_none]
      rfl
  | ok blocks =>
      by_cases hne : blocks = []
      · subst hne
        rw [ofText_of_split_nil hsplit, ofText_of_split_nil hsplit]
        exact ⟨none, rfl⟩
      · cases policy with
        | isolate => exact ⟨none, ofText_isolate_eq d style hsplit hne none⟩
        | abort =>
            cases hparse : blocks.mapM (Diagnostic.parse d id) with
            | ok es =>
                obtain ⟨es', hparse'⟩ := exists_mapM_parse_of_id hparse
                rw [ofText_eq_of_mapM hsplit hparse, ofText_eq_of_mapM hsplit hparse']
                exact ⟨none, ofText_isolate_eq d style hsplit hne none⟩
            | error e =>
                obtain ⟨l?, hparse'⟩ := mapM_parse_error_of_id hparse
                rw [ofText_abort_of_error hsplit hparse, ofText_abort_of_error hsplit hparse']
                exact ⟨l?, rfl⟩

/-- A style changes nothing about a block but its paths, and nothing about how a run ends. -/
theorem style_reaches_only_paths (d : Dialect) (style : PathStyle) :
    (∀ b e, Diagnostic.parse d id b = .ok e →
      Diagnostic.parse d style b = .ok (e.mapPath style)) ∧
    (∀ b e, Diagnostic.parse d id b = .error e → (∀ place, e ≠ .missingErrorLine place) →
      Diagnostic.parse d style b = .error e) ∧
    (∀ b place, Diagnostic.parse d id b = .error (.missingErrorLine place) →
      ∃ first rest l, b.lines = first :: rest ∧ Location.parse d id first = .ok l ∧
        place = l.path ++ ':' :: Text.ofNat l.startLine ∧
        Diagnostic.parse d style b =
          .error (.missingErrorLine (style l.path ++ ':' :: Text.ofNat l.startLine))) ∧
    ∀ policy input outcome, (ofText d style policy input).result = .ok outcome ↔
      (ofText d id policy input).result = .ok outcome := by
  refine ⟨fun b e h => ?_, fun b e h hbody => ?_, fun b place h => ?_, ?_⟩
  · rw [Diagnostic.parse_eq, h]
    rfl
  · rw [Diagnostic.parse_eq, h]
    exact congrArg Except.error (Failure.relocate_eq_self hbody _)
  · obtain ⟨first, rest, l, hlines, hl, hlocation, rfl⟩ := Diagnostic.parse_eq_missingErrorLine h
    refine ⟨first, rest, l, hlines, hl, rfl, ?_⟩
    rw [Diagnostic.parse_eq, h, Block.location?_eq, hlocation]
    rfl
  · intro policy input outcome
    obtain ⟨l?, hrun⟩ := ofText_eq_mapPath d style policy input
    rw [hrun, mapPath]
    cases (ofText d id policy input).result <;> simp [Except.mapError]

/-- Below `/w` a path is shown from there on, in a diagnostic and in a failure. -/
theorem style_reaches_only_paths_relative :
    Diagnostic.parse .ocaml4 (Path.relativeTo "/w".toList)
        ⟨0, "File \"/w/a\", line 1:\nError: x\n".toList⟩ =
      .ok ⟨⟨['a'], 1, 1, none, none⟩, [], none, .plain "Error: x".toList⟩ ∧
    Diagnostic.parse .ocaml4 (Path.relativeTo "/w".toList)
        ⟨0, "File \"/w/a\", line 1:\nx\n".toList⟩ = .error (.unexpectedLine ['x']) ∧
    Diagnostic.parse .ocaml4 (Path.relativeTo "/w".toList)
        ⟨0, "File \"/w/a\", line 1:\n".toList⟩ = .error (.missingErrorLine "a:1".toList) := by
  have h := style_reaches_only_paths .ocaml4 (Path.relativeTo "/w".toList)
  have hread : Diagnostic.parse .ocaml4 id ⟨0, "File \"/w/a\", line 1:\nError: x\n".toList⟩ =
      .ok ⟨⟨"/w/a".toList, 1, 1, none, none⟩, [], none, .plain "Error: x".toList⟩ := by
    decide +kernel
  have hline : Diagnostic.parse .ocaml4 id ⟨0, "File \"/w/a\", line 1:\nx\n".toList⟩ =
      .error (.unexpectedLine ['x']) := by decide +kernel
  have hbody : Diagnostic.parse .ocaml4 id ⟨0, "File \"/w/a\", line 1:\n".toList⟩ =
      .error (.missingErrorLine "/w/a:1".toList) := by decide +kernel
  refine ⟨?_, h.2.1 _ _ hline (by simp), ?_⟩
  · rw [h.1 _ _ hread]
    decide +kernel
  · obtain ⟨first, rest, l, hlines, hl, -, hparse⟩ := h.2.2.1 _ _ hbody
    have hfirst : (⟨0, "File \"/w/a\", line 1:\n".toList⟩ : Block).lines =
        ["File \"/w/a\", line 1:".toList] := by decide +kernel
    rw [hfirst] at hlines
    cases hlines
    have hlocation : Location.parse .ocaml4 id "File \"/w/a\", line 1:".toList =
        .ok ⟨"/w/a".toList, 1, 1, none, none⟩ := by decide +kernel
    rw [hlocation] at hl
    cases hl
    rw [hparse]
    decide +kernel

end Run
end TypeReport
