import TypeReport.Run
import TypeReport.Proofs.Block.Partition
import TypeReport.Proofs.MapM

/-! # What a run reports

Among the events of a run are the diagnostics it hands over (`diagnostics`) and the
blocks it skips (`skips`); the other events only mark its progress.  A run over a
stream reports its blocks one by one, each at its place: a block that can be read
as its diagnostic, another one as skipped. -/

namespace TypeReport

namespace Event

/-- The place and the diagnostic that an event hands over. -/
def diagnostic? : Event → Option (Nat × Diagnostic)
  | diagnostic index e => some (index, e)
  | _ => none

/-- The skipped block that an event reports. -/
def skipped? : Event → Option Skipped
  | skipped s => some s
  | _ => none

end Event

namespace Run

/-- The diagnostics that a run hands over, with their places. -/
def diagnostics (r : Run) : List (Nat × Diagnostic) := r.events.filterMap Event.diagnostic?

/-- The blocks that a run skips. -/
def skips (r : Run) : List Skipped := r.events.filterMap Event.skipped?

theorem events_reported (total failed : Nat) (reports : List Event) :
    (reported total failed reports).events =
      .start total :: (reports.zipIdx.flatMap fun p => [.progress total (p.2 + 1), p.1]) ++
        [.finish total failed, .flush] := by
  rw [reported, placed, List.mapIdx_eq_zipIdx_map, List.flatMap_map]

/-- Only reports matter to a selection that passes over every other event. -/
theorem filterMap_reported {α : Type} {f : Event → Option α} (total failed : Nat)
    (reports : List Event) (hstart : f (.start total) = none)
    (hprogress : ∀ n, f (.progress total n) = none) (hfinish : f (.finish total failed) = none)
    (hflush : f .flush = none) :
    (reported total failed reports).events.filterMap f = reports.filterMap f := by
  -- Progress counts from one, but the induction needs it to count from anywhere.
  have hbody : ∀ k, ((reports.zipIdx k).flatMap fun p => [.progress total (p.2 + 1), p.1]).filterMap
      f = reports.filterMap f := by
    induction reports with
    | nil => exact fun _ => rfl
    | cons e es ih =>
        intro k
        rw [List.zipIdx_cons, List.flatMap_cons, List.filterMap_append, ih]
        simp only [List.filterMap_cons, hprogress, List.filterMap_nil]
        cases f e with
        | none => rfl
        | some a => rfl
  rw [events_reported]
  simp only [List.cons_append, List.filterMap_cons, List.filterMap_append, hstart,
    hfinish, hflush, hbody, List.filterMap_nil, List.append_nil]

theorem diagnostics_reported (total failed : Nat) (reports : List Event) :
    (reported total failed reports).diagnostics = reports.filterMap Event.diagnostic? :=
  filterMap_reported total failed reports rfl (fun _ => rfl) rfl rfl

theorem skips_reported (total failed : Nat) (reports : List Event) :
    (reported total failed reports).skips = reports.filterMap Event.skipped? :=
  filterMap_reported total failed reports rfl (fun _ => rfl) rfl rfl

variable {d : Dialect} {style : PathStyle}

theorem report_of_ok {b : Block} {e : Diagnostic} (h : Diagnostic.parse d style b = .ok e) :
    report d style b = .diagnostic b.index e := by
  rw [report, h]

theorem report_of_error {b : Block} {e : Failure} (h : Diagnostic.parse d style b = .error e) :
    report d style b = .skipped (skip d style b e) := by
  rw [report, h]

/-- The blocks of a stream are numbered in order. -/
theorem placed_eq_reported {input : Text} {blocks : List Block}
    (hsplit : Block.split d input = .ok blocks) (report : Block → Event) (total failed : Nat) :
    placed total failed (blocks.map fun b => (b.index, report b)) =
      reported total failed (blocks.map report) := by
  have hindex := (Block.split_eq_ok_iff.1 hsplit).index
  have hplaces : blocks.map (fun b => (b.index, report b)) =
      (blocks.map report).mapIdx Prod.mk := by
    refine List.ext_getElem? fun k => ?_
    rw [List.getElem?_map, List.getElem?_mapIdx, List.getElem?_map, Option.map_map]
    exact Option.map_congr fun b hb => by rw [hindex k b hb]; rfl
  rw [reported, hplaces]

/-- The reports of blocks that can all be read are their diagnostics, each at its place. -/
theorem map_report_of_mapM {input : Text} {blocks : List Block} {es : List Diagnostic}
    (hsplit : Block.split d input = .ok blocks)
    (hparse : blocks.mapM (Diagnostic.parse d style) = .ok es) :
    blocks.map (report d style) = es.mapIdx Event.diagnostic := by
  have hindex := (Block.split_eq_ok_iff.1 hsplit).index
  have hread := mapM_eq_ok_iff.1 hparse
  refine List.ext_getElem (by simpa using hread.length_eq) fun k hk hk' => ?_
  rw [List.length_map] at hk
  rw [List.length_mapIdx] at hk'
  have hparse : Diagnostic.parse d style blocks[k] = .ok es[k] := hread.get hk hk'
  have hplace : blocks[k].index = k := hindex k blocks[k] (List.getElem?_eq_getElem hk)
  rw [List.getElem_map, List.getElem_mapIdx, report_of_ok hparse, hplace]

end Run
end TypeReport
