import TypeReport.Backtrace.Parser
import TypeReport.Proofs.Backtrace.Bindings

/-! # Marks of frames

What a frame marks are bindings that reappear, so they are parts of its own sides and not
empty (`Frame.isMarked_following`).  A backtrace marks nothing in its first frame and only
such parts in the others (`isMarked_of_mem_link`). -/

namespace TypeReport

/-! ### Frames -/

/-- Whether what a frame marks are parts of its sides, and not empty ones. -/
structure Frame.IsMarked (f : Frame) : Prop where
  implementation : ∀ r ∈ f.implementationMark, r.isEmpty = false ∧ r.IsIn f.implementation
  interface : ∀ r ∈ f.interfaceMark, r.isEmpty = false ∧ r.IsIn f.interface

theorem Frame.isMarked_of_none (sides : Sides) : Frame.IsMarked ⟨sides, none, none⟩ :=
  ⟨(by simp), (by simp)⟩

theorem Frame.isMarked_following (previous current : Sides) :
    (Frame.following previous current).IsMarked :=
  ⟨fun _ h => Binding.isIn_of_mark? h, fun _ h => Binding.isIn_of_mark? h⟩

namespace Backtrace

theorem link_cons_cons (previous current : Sides) (rest : List Sides) :
    link (previous :: current :: rest) =
      ⟨previous, none, none⟩ :: Frame.following previous current :: (link (current :: rest)).tail :=
  rfl

theorem toSides_link (sides : List Sides) : (link sides).map (·.toSides) = sides := by
  cases sides with
  | nil => rfl
  | cons root rest =>
      induction rest generalizing root with
      | nil => rfl
      | cons next rest ih =>
          have htail := congrArg List.tail (ih next)
          rw [List.tail_cons, ← List.map_tail] at htail
          rw [link_cons_cons, List.map_cons, List.map_cons, htail]
          rfl

theorem isMarked_of_mem_link {sides : List Sides} {f : Frame} (h : f ∈ link sides) :
    f.IsMarked := by
  cases sides with
  | nil => cases h
  | cons root rest =>
      rcases List.mem_cons.1 h with rfl | h
      · exact Frame.isMarked_of_none root
      · induction rest generalizing root with
        | nil => cases h
        | cons next rest ih =>
            rcases List.mem_cons.1 h with rfl | h
            · exact Frame.isMarked_following root next
            · exact ih next (List.mem_cons_of_mem _ h) h

theorem unmarked_of_head?_link {sides : List Sides} {f : Frame} (h : f ∈ (link sides).head?) :
    f.implementationMark = none ∧ f.interfaceMark = none := by
  cases sides with
  | nil => cases h
  | cons root rest =>
      cases h
      exact ⟨rfl, rfl⟩

/-- A backtrace that is read has the chunks that are no notices for frames, the last first. -/
theorem parse_eq_ok_iff {d : Dialect} {ls : List Text} {b : Backtrace} :
    parse d ls = .ok b ↔ ∃ sides,
      ((Chunk.split d ls).filter (!d.isEscape ·)).reverse.mapM (Chunk.sides d) = .ok sides ∧
        b = ⟨link sides, ((Chunk.split d ls).find? d.isEscape).map Text.trim⟩ := by
  simp only [parse, bind, Except.bind]
  cases ((Chunk.split d ls).filter (!d.isEscape ·)).reverse.mapM (Chunk.sides d) with
  | error e => simp
  | ok sides => simp [pure, Except.pure, eq_comm]

/-- The marks of a backtrace that is read are parts of its frames, and its root has none. -/
theorem isMarked_of_parse {d : Dialect} {ls : List Text} {b : Backtrace} (h : parse d ls = .ok b) :
    (∀ f ∈ b.frames, f.IsMarked) ∧
      ∀ f ∈ b.frames.head?, f.implementationMark = none ∧ f.interfaceMark = none := by
  obtain ⟨sides, -, rfl⟩ := parse_eq_ok_iff.1 h
  exact ⟨fun f hf => isMarked_of_mem_link hf, fun f hf => unmarked_of_head?_link hf⟩

end Backtrace
end TypeReport
