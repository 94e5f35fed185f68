import TypeReport.Proofs.Backtrace.Layouts
import TypeReport.Proofs.Backtrace.Marks
import TypeReport.Proofs.MapM

/-! # From chunks to frames

Each chunk of a mismatch that is no notice becomes a frame, the last one first, and each
frame is linked to the one before it; the notice is the first chunk that is one
(`IsReadFrom`).  Nothing else is a backtrace of the chunks (`parse_eq_ok_iff_isReadFrom`),
and a backtrace cannot be read if such a chunk has no connective; the last of these is
blamed (`parse_eq_error_iff`). -/

namespace TypeReport

/-! ### Links -/

namespace Backtrace

/-- Whether each frame of a list is marked for the one before it, and the first has no marks. -/
def IsLinked (frames : List Frame) : Prop :=
  (∀ f ∈ frames.head?, f = ⟨f.toSides, none, none⟩) ∧
    frames.IsChain fun f g => g = Frame.following f.toSides g.toSides

theorem isChain_zipWith_following (f : Frame) (rest : List Sides) :
    (f :: List.zipWith Frame.following (f.toSides :: rest) rest).IsChain
      fun f g => g = Frame.following f.toSides g.toSides := by
  induction rest generalizing f with
  | nil => exact .singleton f
  | cons next rest ih =>
      rw [List.zipWith_cons_cons, List.isChain_cons_cons]
      exact ⟨rfl, ih (Frame.following f.toSides next)⟩

theorem eq_zipWith_following {f : Frame} {frames : List Frame}
    (h : (f :: frames).IsChain fun f g => g = Frame.following f.toSides g.toSides) :
    List.zipWith Frame.following (f.toSides :: frames.map (·.toSides)) (frames.map (·.toSides)) =
      frames := by
  induction frames generalizing f with
  | nil => rfl
  | cons g frames ih =>
      rw [List.isChain_cons_cons] at h
      rw [List.map_cons, List.zipWith_cons_cons, ih h.2, ← h.1]

theorem isLinked_iff {frames : List Frame} :
    IsLinked frames ↔ frames = link (frames.map (·.toSides)) := by
  cases frames with
  | nil => exact iff_of_true ⟨by simp, .nil⟩ rfl
  | cons root rest =>
      rw [List.map_cons, link]
      constructor
      · rintro ⟨hroot, hchain⟩
        rw [eq_zipWith_following hchain, ← hroot root rfl]
      · intro h
        obtain ⟨hroot, hrest⟩ := List.cons.inj h
        refine ⟨fun f hf => ?_, ?_⟩
        · cases hf
          exact hroot
        · rw [hrest]
          exact isChain_zipWith_following root _

theorem isLinked_link (sides : List Sides) : IsLinked (link sides) := by
  rw [isLinked_iff, toSides_link]

/-! ### What is read -/

/-- Whether a backtrace holds what chunks tell. -/
structure IsReadFrom (d : Dialect) (chunks : List Text) (b : Backtrace) : Prop where
  -- a frame for each chunk that is no notice, the last chunk first
  frames : List.Forall₂
    (fun chunk f => ∃ l : Layout, l.Separates d f.toSides ∧ l.text f.toSides = chunk)
    (chunks.filter (!d.isEscape ·)).reverse b.frames
  linked : IsLinked b.frames
  notice : ∀ n, b.notice = some n ↔ ∃ before chunk behind, chunks = before ++ chunk :: behind ∧
    (∀ c ∈ before, d.isEscape c = false) ∧ d.isEscape chunk = true ∧ n = chunk.trim
  noNotice : b.notice = none ↔ ∀ chunk ∈ chunks, d.isEscape chunk = false

variable {d : Dialect} {ls : List Text}

theorem notice_eq_some_iff {chunks : List Text} {n : Text} :
    (chunks.find? d.isEscape).map Text.trim = some n ↔
      ∃ before chunk behind, chunks = before ++ chunk :: behind ∧
        (∀ c ∈ before, d.isEscape c = false) ∧ d.isEscape chunk = true ∧ n = chunk.trim := by
  simp only [Option.map_eq_some_iff, List.find?_eq_some_iff_append, Bool.not_eq_true']
  constructor
  · rintro ⟨chunk, ⟨hescape, before, behind, hchunks, hbefore⟩, rfl⟩
    exact ⟨before, chunk, behind, hchunks, hbefore, hescape, rfl⟩
  · rintro ⟨before, chunk, behind, hchunks, hbefore, hescape, rfl⟩
    exact ⟨chunk, ⟨hescape, before, behind, hchunks, hbefore⟩, rfl⟩

theorem parse_eq_ok_iff_isReadFrom {b : Backtrace} :
    parse d ls = .ok b ↔ IsReadFrom d (Chunk.split d ls) b := by
  rw [parse_eq_ok_iff]
  constructor
  · rintro ⟨sides, hsides, rfl⟩
    refine ⟨?_, isLinked_link sides, fun n => notice_eq_some_iff, ?_⟩
    · rw [mapM_eq_ok_iff, ← toSides_link sides, List.forall₂_map_right_iff] at hsides
      exact hsides.imp fun chunk f h => Chunk.sides_eq_ok_iff.1 h
    · simp
  · intro h
    refine ⟨b.frames.map (·.toSides), ?_, ?_⟩
    · rw [mapM_eq_ok_iff, List.forall₂_map_right_iff]
      exact h.frames.imp fun chunk f hf => Chunk.sides_eq_ok_iff.2 hf
    · have hnotice : b.notice = ((Chunk.split d ls).find? d.isEscape).map Text.trim :=
        Option.ext fun n => (h.notice n).trans notice_eq_some_iff.symm
      rw [← isLinked_iff.1 h.linked, ← hnotice]

theorem exists_parse_iff : (∃ b, parse d ls = .ok b) ↔
    ∀ chunk ∈ Chunk.split d ls, d.isEscape chunk = false →
      ∃ w ∈ d.connectives, w <:+: chunk := by
  have hmapM : (∃ b, parse d ls = .ok b) ↔ ∃ sides,
      ((Chunk.split d ls).filter (!d.isEscape ·)).reverse.mapM (Chunk.sides d) = .ok sides := by
    simp only [parse_eq_ok_iff]
    exact ⟨fun ⟨_, sides, hsides, _⟩ => ⟨sides, hsides⟩,
      fun ⟨sides, hsides⟩ => ⟨_, sides, hsides, rfl⟩⟩
  rw [hmapM, exists_mapM_ok_iff]
  simp [Chunk.exists_sides_iff]

theorem parse_eq_error_iff {e : Failure} : parse d ls = .error e ↔
    ∃ before chunk behind, Chunk.split d ls = before ++ chunk :: behind ∧
      d.isEscape chunk = false ∧ (∀ w ∈ d.connectives, ¬ w <:+: chunk) ∧
      (∀ c ∈ behind, d.isEscape c = false → ∃ w ∈ d.connectives, w <:+: c) ∧
      e = .unrecognizedConnective chunk.trim := by
  have hmapM : parse d ls = .error e ↔
      ((Chunk.split d ls).filter (!d.isEscape ·)).reverse.mapM (Chunk.sides d) = .error e := by
    simp [parse, bind_eq_error_iff, pure, Except.pure]
  rw [hmapM, mapM_reverse_filter_eq_error_iff]
  simp only [Chunk.sides_eq_error_iff, Chunk.exists_sides_iff, Bool.not_eq_true']
  constructor
  · rintro ⟨before, chunk, behind, hchunks, hescape, ⟨hnone, he⟩, hbehind⟩
    exact ⟨before, chunk, behind, hchunks, hescape, hnone, hbehind, he⟩
  · rintro ⟨before, chunk, behind, hchunks, hescape, hnone, hbehind, he⟩
    exact ⟨before, chunk, behind, hchunks, hescape, ⟨hnone, he⟩, hbehind⟩

end Backtrace

end TypeReport
