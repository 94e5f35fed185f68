import TypeReport.Backtrace.Chunk
import TypeReport.Proofs.Block.Partition
import TypeReport.Proofs.Text.Phrases

/-! # Lines cut at boundaries

The lines of a mismatch that belong to some chunk are cut in front of each boundary line,
and in no other way (`IsCut`, `IsCut.cut_eq`).  The dialects whose boundaries show
(`Dialect.ShowsBoundaries`) have no blank boundary line, so dropping the blank chunks can
drop no other chunk than the one in front of the first boundary, and drops that one exactly
when all of its lines are blank (`split_eq`).  What the chunks hold, and how many there are,
follows from that (`split_iff_isCut`). -/

namespace TypeReport

open Text

namespace Dialect

/-- Whether all that a boundary line is known by has a character that is not blank. -/
structure ShowsBoundaries (d : Dialect) : Prop where
  phrases : ∀ w ∈ d.boundaryPhrases, ∃ c ∈ w, isBlankChar c = false
  heading : ∃ c ∈ d.boundaryHeading, isBlankChar c = false

theorem ShowsBoundaries.isBlank_eq_false {d : Dialect} (h : d.ShowsBoundaries) {l : Text}
    (hl : d.isBoundary l = true) : l.isBlank = false := by
  -- Whatever tells the boundary brings its character along.
  suffices hc : ∃ c ∈ l, isBlankChar c = false by
    obtain ⟨c, hmem, hc⟩ := hc
    exact List.all_eq_false.2 ⟨c, hmem, by simp [hc]⟩
  rw [isBoundary, Bool.or_eq_true] at hl
  rcases hl with hphrase | hheading
  · obtain ⟨w, hw, hincludes⟩ := List.any_eq_true.1 hphrase
    obtain ⟨c, hmem, hc⟩ := h.phrases w hw
    exact ⟨c, (includes_iff.1 hincludes).subset hmem, hc⟩
  · obtain ⟨rest, hrest, -⟩ := (Option.any_eq_true _ _).1 hheading
    obtain ⟨c, hmem, hc⟩ := h.heading
    have hstarts : d.boundaryHeading <+: l.trimStart := ⟨rest, eq_append_of_after? hrest⟩
    exact ⟨c, List.dropWhile_subset _ (hstarts.subset hmem), hc⟩

end Dialect

namespace Chunk

variable {d : Dialect} {ls lead : List Text} {runs : List (List Text)}

/-! ### Lines put together -/

theorem ofLines_append (a b : List Text) : ofLines (a ++ b) = ofLines a ++ ofLines b :=
  List.flatMap_append

theorem flatten_map_ofLines (runs : List (List Text)) :
    (runs.map ofLines).flatten = ofLines runs.flatten := by
  induction runs with
  | nil => rfl
  | cons run runs ih => rw [List.map_cons, List.flatten_cons, List.flatten_cons, ofLines_append, ih]

/-- A line feed is blank, so only the lines matter. -/
theorem isBlank_ofLines (ls : List Text) : (ofLines ls).isBlank = ls.all Text.isBlank := by
  have hfeed : Text.isBlank ['\n'] = true := by decide
  have happend (a b : Text) : Text.isBlank (a ++ b) = (a.isBlank && b.isBlank) := List.all_append
  induction ls with
  | nil => rfl
  | cons l ls ih =>
      have hcons : ofLines (l :: ls) = l ++ ['\n'] ++ ofLines ls := List.flatMap_cons
      rw [hcons, happend, happend, hfeed, Bool.and_true, ih, List.all_cons]

/-! ### Cuts -/

/-- The lines that belong to some chunk. -/
def keptLines (d : Dialect) (ls : List Text) : List Text := ls.filter (!d.isSkipped ·)

/-- The lines in front of the first boundary. -/
def leadLines (d : Dialect) (ls : List Text) : List Text :=
  (keptLines d ls).takeWhile (!d.isBoundary ·)

/-- Whether lines are cut into a lead without boundaries and runs that each start at a boundary and
go on to the next.  Lines that belong to no chunk are dropped, and no other line is lost, added or
moved. -/
structure IsCut (d : Dialect) (ls lead : List Text) (runs : List (List Text)) : Prop where
  lead_append_flatten : lead ++ runs.flatten = keptLines d ls
  lead : ∀ l ∈ lead, d.isBoundary l = false
  runs : ∀ run ∈ runs, ∃ first rest, run = first :: rest ∧ d.isBoundary first = true ∧
    ∀ l ∈ rest, d.isBoundary l = false

theorem isCut_cut (d : Dialect) (ls : List Text) :
    IsCut d ls (Runs.cut d.isBoundary (keptLines d ls)).lead
      (Runs.cut d.isBoundary (keptLines d ls)).runs where
  lead_append_flatten := Runs.lead_append_flatten _ _
  lead := fun _ => Runs.not_opens_of_mem_lead _
  runs := fun _ => Runs.head_of_mem_runs _

namespace IsCut

variable (h : IsCut d ls lead runs)

include h

theorem cut_eq : Runs.cut d.isBoundary (keptLines d ls) = ⟨lead, runs⟩ := by
  rw [← h.lead_append_flatten]
  exact Runs.cut_eq _ h.lead h.runs

theorem lead_eq : lead = leadLines d ls := by
  rw [leadLines, ← Runs.lead_cut, h.cut_eq]

theorem length_runs : runs.length = (keptLines d ls).countP d.isBoundary := by
  rw [← Runs.length_runs_cut, h.cut_eq]

/-- The lines behind the lead start with the first boundary. -/
theorem flatten_runs : runs.flatten = (keptLines d ls).dropWhile (!d.isBoundary ·) := by
  have hkept := h.lead_append_flatten
  rw [← List.takeWhile_append_dropWhile (p := (!d.isBoundary ·)) (l := keptLines d ls),
    ← leadLines, ← h.lead_eq] at hkept
  exact List.append_cancel_left hkept

/-- A run starts with a boundary, so it makes up a chunk of its own. -/
theorem isBlank_ofLines_run (hd : d.ShowsBoundaries) {run : List Text} (hrun : run ∈ runs) :
    (ofLines run).isBlank = false := by
  obtain ⟨first, rest, rfl, hfirst, -⟩ := h.runs run hrun
  rw [isBlank_ofLines, List.all_cons, hd.isBlank_eq_false hfirst, Bool.false_and]

/-- The lead is the only chunk that can be dropped. -/
theorem split_eq (hd : d.ShowsBoundaries) :
    split d ls = (if lead.all Text.isBlank then [] else [ofLines lead]) ++ runs.map ofLines := by
  have hkept : (runs.map ofLines).filter (!Text.isBlank ·) = runs.map ofLines := by
    refine List.filter_eq_self.2 fun chunk hchunk => ?_
    obtain ⟨run, hrun, rfl⟩ := List.mem_map.1 hchunk
    rw [h.isBlank_ofLines_run hd hrun]
    rfl
  have hcut : split d ls = ((lead :: runs).map ofLines).filter (!Text.isBlank ·) := by
    have := h.cut_eq
    rw [keptLines] at this
    rw [split, this]
  rw [hcut, List.map_cons, List.filter_cons, hkept, isBlank_ofLines]
  cases lead.all Text.isBlank <;> rfl

end IsCut

/-! ### Chunks -/

/-- The chunks of a list of lines are the runs of its only cut, with the lead in front unless it is
blank.  So they hold all lines that belong to some chunk, apart from a blank lead, and there is one
for each boundary and one for a lead that is not blank. -/
theorem split_iff_isCut {d : Dialect} (hd : d.ShowsBoundaries) (ls : List Text) :
    (∀ chunks, split d ls = chunks ↔ ∃ lead runs, IsCut d ls lead runs ∧
      chunks = (if lead.all Text.isBlank then [] else [ofLines lead]) ++ runs.map ofLines) ∧
    (split d ls).flatten = ofLines (if (leadLines d ls).all Text.isBlank
      then (keptLines d ls).dropWhile (!d.isBoundary ·) else keptLines d ls) ∧
    (split d ls).length = (keptLines d ls).countP d.isBoundary +
      if (leadLines d ls).any (!Text.isBlank ·) then 1 else 0 := by
  obtain ⟨lead, runs, h⟩ : ∃ lead runs, IsCut d ls lead runs := ⟨_, _, isCut_cut d ls⟩
  have hsplit := h.split_eq hd
  refine ⟨fun chunks => ⟨?_, ?_⟩, ?_, ?_⟩
  · rintro rfl
    exact ⟨lead, runs, h, hsplit⟩
  · rintro ⟨lead', runs', h', rfl⟩
    exact h'.split_eq hd
  · rw [hsplit, ← h.lead_eq, ← h.flatten_runs, List.flatten_append, flatten_map_ofLines]
    cases lead.all Text.isBlank
    case true => rfl
    case false =>
      rw [← h.lead_append_flatten, if_neg (by decide), if_neg (by decide), ofLines_append,
        List.flatten_singleton]
  · have hany : lead.any (!Text.isBlank ·) = !lead.all Text.isBlank := List.not_all_eq_any_not.symm
    rw [hsplit, ← h.lead_eq, ← h.length_runs, hany, List.length_append, List.length_map,
      Nat.add_comm]
    cases lead.all Text.isBlank <;> rfl

/-- A blank line in front of the first boundary, a boundary that is dropped, and a chunk with a
blank line in it. -/
theorem split_iff_isCut_blank_lead :
    split .ocaml4 [" ".toList, "Types for method: The type".toList, "Type t".toList, [],
        "The type u".toList] = ["Type t\n\n".toList, "The type u\n".toList] ∧
    (split .ocaml4 [" ".toList, "Types for method: The type".toList, "Type t".toList, [],
        "The type u".toList]).length = 2 ∧
    (split .ocaml4 [" ".toList, "Types for method: The type".toList, "Type t".toList, [],
        "The type u".toList]).flatten = ofLines ["Type t".toList, [], "The type u".toList] := by
  have hd : Dialect.ocaml4.ShowsBoundaries := by
    refine ⟨List.forall_mem_cons.2 ⟨?_, List.forall_mem_singleton.2 ?_⟩, ?_⟩
    · exact ⟨'V', by decide, rfl⟩
    · exact ⟨'T', by decide, rfl⟩
    · exact ⟨'T', by decide, rfl⟩
  obtain ⟨hcut, hflatten, hlength⟩ := split_iff_isCut hd [" ".toList,
    "Types for method: The type".toList, "Type t".toList, [], "The type u".toList]
  refine ⟨(hcut _).2 ⟨[" ".toList], [["Type t".toList, []], ["The type u".toList]], ?_, ?_⟩, ?_, ?_⟩
  · refine ⟨by decide, by decide, ?_⟩
    rw [List.forall_mem_cons, List.forall_mem_singleton]
    exact ⟨⟨_, _, rfl, by decide, by decide⟩, _, _, rfl, by decide, by decide⟩
  · decide
  · exact hlength.trans (by decide)
  · exact hflatten.trans (by decide)

end Chunk
end TypeReport
