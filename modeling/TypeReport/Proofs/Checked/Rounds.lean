import TypeReport.Proofs.Backtrace.Chunks
import TypeReport.Proofs.Checked.Backtrace

/-! # Reading in rounds

The chunks of a mismatch are taken up from the last to the first.  A chunk that is a notice
takes the place of the notice before it, so the first in the text is kept; any other chunk
becomes a frame, or stops the reading if it has no connective, so the last in the text is
blamed (`Checked.foldlM_takeUp`).  Afterwards each frame is linked to the one before it,
which leaves its sides alone (`Checked.toSides_linkAt`).  In the end there is the one
backtrace that holds what the chunks tell (`Backtrace.parse_iff_isReadFrom`). -/

namespace TypeReport

namespace Checked

variable {d : Dialect}

/-- Takes up a chunk: a notice takes the place of the one before it, and the sides of a mismatch
are put behind the frames. -/
def takeUp (d : Dialect) (b : Backtrace) (chunk : Text) : Except Failure Backtrace :=
  if d.isEscape chunk then .ok { b with notice := some chunk.trim }
  else (Chunk.sides d chunk).map fun s => { b with frames := b.frames ++ [unlinked s] }

/-- Takes up the chunks of a mismatch, the last of them first, and then links the frames. -/
def rounds (d : Dialect) (ls : List Text) : Checked (Except Failure Backtrace) :=
  andThen ((Chunk.split d ls).reverse.foldlM (takeUp d) ⟨[], none⟩) fun b => do
    return .ok { b with frames := ← link b.frames }

theorem frames_prefix_of_takeUp {b b' : Backtrace} {chunk : Text} (h : takeUp d b chunk = .ok b') :
    b.frames <+: b'.frames := by
  unfold takeUp at h
  split at h
  · cases h
    exact List.prefix_rfl
  · cases hsides : Chunk.sides d chunk with
    | error e => rw [hsides] at h; cases h
    | ok s =>
        rw [hsides] at h
        cases h
        exact List.prefix_append b.frames [unlinked s]

theorem toSides_linkAt {frames frames' : List Frame} {i : Nat}
    (h : linkAt frames i = some frames') :
    frames'.map (·.toSides) = frames.map (·.toSides) := by
  simp only [linkAt, Option.bind_eq_bind, Option.bind_eq_some_iff] at h
  obtain ⟨_, _, previous, -, current, hcurrent, _, -, _, -, h⟩ := h
  cases h
  obtain ⟨hi, rfl⟩ := List.getElem?_eq_some_iff.1 hcurrent
  have hi' : i < (frames.map (·.toSides)).length := by rwa [List.length_map]
  have hside : (frames.map (·.toSides))[i] = frames[i].toSides := List.getElem_map _
  rw [List.map_set, ← hside]
  exact List.set_getElem_self _

/-- After all rounds there is a frame for each chunk that is no notice, and the notice that is left
is the one taken up last. -/
theorem foldlM_takeUp (chunks : List Text) :
    chunks.reverse.foldlM (takeUp d) ⟨[], none⟩ =
      ((chunks.filter (!d.isEscape ·)).reverse.mapM (Chunk.sides d)).map fun sides =>
        ⟨sides.map unlinked, (chunks.find? d.isEscape).map Text.trim⟩ := by
  induction chunks with
  | nil => rfl
  | cons chunk chunks ih =>
      rw [List.reverse_cons, List.foldlM_append, ih]
      by_cases hescape : d.isEscape chunk = true
      · have hstep (b : Backtrace) : takeUp d b chunk = .ok { b with notice := some chunk.trim } :=
          if_pos hescape
        rw [List.filter_cons_of_neg (by simp [hescape]), List.find?_cons_of_pos hescape]
        cases (chunks.filter (!d.isEscape ·)).reverse.mapM (Chunk.sides d) with
        | error e => rfl
        | ok sides =>
            simp only [Except.map, bind, Except.bind, List.foldlM_cons, hstep]
            rfl
      · rw [List.filter_cons_of_pos (by simp [hescape]), List.find?_cons_of_neg hescape,
          List.reverse_cons, List.mapM_append]
        have hstep (b : Backtrace) : takeUp d b chunk =
            (Chunk.sides d chunk).map fun s => { b with frames := b.frames ++ [unlinked s] } :=
          if_neg hescape
        cases (chunks.filter (!d.isEscape ·)).reverse.mapM (Chunk.sides d) with
        | error e => rfl
        | ok sides =>
            simp only [Except.map, bind, Except.bind, List.foldlM_cons, hstep, List.mapM_cons]
            cases Chunk.sides d chunk with
            | error e => rfl
            | ok s => simp [pure, Except.pure]

theorem rounds_eq (d : Dialect) (ls : List Text) : rounds d ls = some (Backtrace.parse d ls) := by
  rw [rounds, foldlM_takeUp, Backtrace.parse]
  cases ((Chunk.split d ls).filter (!d.isEscape ·)).reverse.mapM (Chunk.sides d) with
  | error e => rfl
  | ok sides =>
      simp only [Except.map, andThen, link_eq]
      rfl

end Checked

/-! ### Backtraces -/

namespace Backtrace

/-- Reading a backtrace succeeds exactly when each chunk that is no notice has a connective, blames
the last that has none, and otherwise gives the one backtrace that holds what the chunks tell.  It
can be done in rounds, none of which changes the sides of a frame. -/
theorem parse_iff_isReadFrom (d : Dialect) (ls : List Text) :
    (∀ chunk, d.isEscape chunk = true ↔ ∃ w ∈ d.escapePhrases, w <:+: chunk) ∧
    ((∃ b, parse d ls = .ok b) ↔ ∀ chunk ∈ Chunk.split d ls, d.isEscape chunk = false →
      ∃ w ∈ d.connectives, w <:+: chunk) ∧
    (∀ e, parse d ls = .error e ↔ ∃ before chunk behind,
      Chunk.split d ls = before ++ chunk :: behind ∧ d.isEscape chunk = false ∧
      (∀ w ∈ d.connectives, ¬ w <:+: chunk) ∧
      (∀ c ∈ behind, d.isEscape c = false → ∃ w ∈ d.connectives, w <:+: c) ∧
      e = .unrecognizedConnective chunk.trim) ∧
    (∀ b, parse d ls = .ok b ↔ IsReadFrom d (Chunk.split d ls) b) ∧
    Checked.rounds d ls = some (parse d ls) ∧
    (∀ b chunk b', Checked.takeUp d b chunk = .ok b' → b.frames <+: b'.frames) ∧
    ∀ frames i frames', Checked.linkAt frames i = some frames' →
      frames'.map (·.toSides) = frames.map (·.toSides) :=
  ⟨fun _ => Dialect.isEscape_iff, exists_parse_iff, fun _ => parse_eq_error_iff,
    fun _ => parse_eq_ok_iff_isReadFrom, Checked.rounds_eq d ls,
    fun _ _ _ => Checked.frames_prefix_of_takeUp, fun _ _ _ => Checked.toSides_linkAt⟩

/-- Two chunks around a notice; the last one printed is the root. -/
theorem parse_iff_isReadFrom_around_notice :
    parse .ocaml4 ["s is not included in t".toList, "Type x would escape its scope".toList,
        "Type u is not included in v".toList] =
      .ok ⟨[⟨⟨['u'], ['v']⟩, none, none⟩, ⟨⟨['s'], ['t']⟩, none, none⟩],
        some "Type x would escape its scope".toList⟩ ∧
    IsReadFrom .ocaml4 ["s is not included in t\n".toList,
        "Type x would escape its scope\n".toList, "Type u is not included in v\n".toList]
      ⟨[⟨⟨['u'], ['v']⟩, none, none⟩, ⟨⟨['s'], ['t']⟩, none, none⟩],
        some "Type x would escape its scope".toList⟩ := by
  have hparse : parse .ocaml4 ["s is not included in t".toList,
        "Type x would escape its scope".toList, "Type u is not included in v".toList] =
      .ok ⟨[⟨⟨['u'], ['v']⟩, none, none⟩, ⟨⟨['s'], ['t']⟩, none, none⟩],
        some "Type x would escape its scope".toList⟩ := by decide +kernel
  have hchunks : Chunk.split .ocaml4 ["s is not included in t".toList,
        "Type x would escape its scope".toList, "Type u is not included in v".toList] =
      ["s is not included in t\n".toList, "Type x would escape its scope\n".toList,
        "Type u is not included in v\n".toList] := by decide +kernel
  have hread := ((parse_iff_isReadFrom .ocaml4 _).2.2.2.1 _).1 hparse
  rw [hchunks] at hread
  exact ⟨hparse, hread⟩

end Backtrace
end TypeReport
