import TypeReport.Proofs.Backtrace.Marks
import TypeReport.Proofs.Checked.Operations

/-! # Checked backtraces

A chunk is cut around its connective, and a text around each place where a name is looked
at, by the offset at which a phrase was found.  The frames of a backtrace are linked by a
loop over their places, which reads each frame and the one before it. -/

namespace TypeReport

namespace Text

/-- The offset of the first occurrence of `w` in `s`. -/
def offsetOf? (s w : Text) : Option Nat := (s.around? w).map (·.1.size)

end Text

namespace Checked

/-! ### Bindings -/

/-- The first of the places of a word in a text at which the word stands alone. -/
def firstWord (s w : Text) : List Nat → Checked (Option Span)
  | [] => some none
  | start :: starts => do
      let before ← upTo s start
      let behind ← after s (start + w.size)
      if Text.standsAlone before behind then return some ⟨start, start + w.size⟩
      else firstWord s w starts

theorem firstWord_eq {s w : Text} {places : List (Text × Text)}
    (h : ∀ p ∈ places, p.1 ++ w ++ p.2 = s) :
    firstWord s w (places.map (·.1.size)) =
      some ((places.find? fun p => Text.standsAlone p.1 p.2).map
        fun p => Text.spanBehind p.1 w) := by
  induction places with
  | nil => rfl
  | cons p places ih =>
      rw [List.forall_mem_cons] at h
      rw [List.map_cons, firstWord, upTo_of_parts h.1, after_of_parts h.1, List.find?_cons]
      simp only [Option.bind_eq_bind, Option.bind_some]
      by_cases halone : Text.standsAlone p.1 p.2 = true
      · rw [if_pos halone, halone]
        rfl
      · have hfalse : Text.standsAlone p.1 p.2 = false := by simpa using halone
        rw [if_neg halone, ih h.2, hfalse]

/-- The span of the first occurrence of `w` in `s` that stands alone. -/
def wordSpan? (s w : Text) : Checked (Option Span) :=
  firstWord s w ((Text.occurrences w [] s).map (·.1.size))

theorem wordSpan?_eq (s w : Text) : wordSpan? s w = some (Text.wordSpan? s w) :=
  firstWord_eq fun _ hp => (Text.append_of_mem_occurrences hp).trans (List.nil_append s)

def mark? (previous current : Text) : Checked (Option Span) :=
  match Binding.head? previous with
  | none => some none
  | some head =>
      match Text.offsetOf? current head with
      | some start => some (some ⟨start, start + head.size⟩)
      | none =>
          match Binding.name? head with
          | none => some none
          | some name => if name = head then some none else wordSpan? current name

theorem mark?_eq (previous current : Text) :
    mark? previous current = some (Binding.mark? previous current) := by
  unfold mark? Binding.mark?
  cases Binding.head? previous with
  | none => rfl
  | some head =>
      simp only [Option.bind_eq_bind, Option.bind_some, Text.offsetOf?, Text.spanOf?]
      cases current.around? head with
      | some p => rfl
      | none =>
          cases Binding.name? head with
          | none => rfl
          | some name =>
              simp only [Option.map_none, Option.bind_some]
              split
              · rfl
              · exact wordSpan?_eq current name

/-! ### Chunks -/

/-- The offset of the preferred connective among those in a text, and the connective. -/
def connectiveAt? (d : Dialect) (s : Text) : Option (Nat × Text) :=
  d.connectives.findSome? fun w => (s.offsetOf? w).map (·, w)

def sides (d : Dialect) (chunk : Text) : Checked (Except Failure Sides) :=
  match connectiveAt? d chunk with
  | none => some (.error (.unrecognizedConnective chunk.trim))
  | some (start, w) => do
      let before ← upTo chunk start
      let behind ← after chunk (start + w.size)
      return .ok ⟨d.stripLabel before, behind.trim⟩

theorem connectiveAt?_eq (d : Dialect) (s : Text) :
    connectiveAt? d s = (d.atConnective? s).map fun p => (p.1.size, p.2.1) := by
  unfold connectiveAt? Dialect.atConnective?
  induction d.connectives with
  | nil => rfl
  | cons w ws ih =>
      rw [List.findSome?_cons, List.findSome?_cons, Text.offsetOf?]
      cases s.around? w with
      | some p => rfl
      | none => exact ih

theorem append_of_atConnective? {d : Dialect} {s before w behind : Text}
    (h : d.atConnective? s = some (before, w, behind)) : before ++ w ++ behind = s := by
  obtain ⟨w', -, hw⟩ := List.exists_of_findSome?_eq_some h
  obtain ⟨p, hp, heq⟩ := Option.map_eq_some_iff.1 hw
  cases heq
  exact Text.eq_append_of_around? hp

theorem sides_eq (d : Dialect) (chunk : Text) : sides d chunk = some (Chunk.sides d chunk) := by
  unfold sides Chunk.sides
  rw [connectiveAt?_eq]
  cases h : d.atConnective? chunk with
  | none => rfl
  | some p =>
      obtain ⟨before, w, behind⟩ := p
      have hchunk := append_of_atConnective? h
      simp only [Option.map_some, upTo_of_parts hchunk, after_of_parts hchunk]
      rfl

/-! ### Frames -/

/-- A frame that is not linked to any other. -/
def unlinked (sides : Sides) : Frame := ⟨sides, none, none⟩

/-- Frames of which the one at place `i` has been linked to the one before it. -/
def linkAt (frames : List Frame) (i : Nat) : Checked (List Frame) := do
  let previous ← item frames (← sub i 1)
  let current ← item frames i
  let implementationMark ← mark? previous.implementation current.implementation
  let interfaceMark ← mark? previous.interface current.interface
  return frames.set i ⟨current.toSides, implementationMark, interfaceMark⟩

/-- Frames that have been linked, each to the one before it. -/
def link (frames : List Frame) : Checked (List Frame) :=
  (List.range' 1 (frames.length - 1)).foldlM linkAt frames

theorem linkAt_eq (done : List Frame) (f : Frame) (next : Sides) (rest : List Frame) :
    linkAt (done ++ f :: unlinked next :: rest) (done.length + 1) =
      some (done ++ f :: Frame.following f.toSides next :: rest) := by
  have hprevious : item (done ++ f :: unlinked next :: rest) done.length = some f := by
    rw [item, List.getElem?_append_right (Nat.le_refl _), Nat.sub_self, List.getElem?_cons_zero]
  have hcurrent : item (done ++ f :: unlinked next :: rest) (done.length + 1) =
      some (unlinked next) := by
    rw [item, List.getElem?_append_right (Nat.le_add_right _ 1), Nat.add_sub_cancel_left]
    rfl
  have hset (g : Frame) : (done ++ f :: unlinked next :: rest).set (done.length + 1) g =
      done ++ f :: g :: rest := by
    rw [List.set_append_right _ _ (Nat.le_add_right _ 1), Nat.add_sub_cancel_left]
    rfl
  rw [linkAt, sub_eq (Nat.le_add_left 1 _), Nat.add_sub_cancel]
  simp only [Option.bind_eq_bind, Option.bind_some, hprevious, hcurrent, mark?_eq, hset]
  rfl

/-- The loop links the frames behind those that have been linked. -/
theorem foldlM_linkAt (done : List Frame) (f : Frame) (rest : List Sides) :
    (List.range' (done.length + 1) rest.length).foldlM linkAt (done ++ f :: rest.map unlinked) =
      some (done ++ f :: List.zipWith Frame.following (f.toSides :: rest) rest) := by
  induction rest generalizing done f with
  | nil => rfl
  | cons next rest ih =>
      have hrest := ih (done ++ [f]) (Frame.following f.toSides next)
      rw [List.length_append, List.length_singleton, List.append_assoc, List.append_assoc,
        List.singleton_append, List.singleton_append] at hrest
      rw [List.length_cons, List.range'_succ, List.foldlM_cons, List.map_cons, linkAt_eq]
      exact hrest

theorem link_eq (sides : List Sides) :
    link (sides.map unlinked) = some (Backtrace.link sides) := by
  cases sides with
  | nil => rfl
  | cons root rest =>
      rw [link, List.length_map, List.length_cons, Nat.add_sub_cancel, List.map_cons]
      exact foldlM_linkAt [] (unlinked root) rest

def backtrace (d : Dialect) (ls : List Text) : Checked (Except Failure Backtrace) := do
  let chunks := Chunk.split d ls
  let found ← readAll (sides d) (chunks.filter (!d.isEscape ·)).reverse
  andThen found fun sides => do
    return .ok ⟨← link (sides.map unlinked), (chunks.find? d.isEscape).map Text.trim⟩

theorem backtrace_eq (d : Dialect) (ls : List Text) :
    backtrace d ls = some (Backtrace.parse d ls) := by
  rw [backtrace, readAll_eq (sides_eq d)]
  refine andThen_eq (fun sides => ?_) _
  rw [link_eq]
  rfl

end Checked
end TypeReport
