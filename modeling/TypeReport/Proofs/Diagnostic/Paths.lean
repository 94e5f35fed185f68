import TypeReport.Proofs.Diagnostic.Failures

/-! # Paths in a diagnostic

The style of paths is asked for nothing but the paths of locations, and nothing is decided
by what it answers.  So a block is read in any style as it is read with paths as they are,
and afterwards the paths are put in the style: the locations of a diagnostic
(`Diagnostic.mapPath`), or the place of a block without a body (`Failure.relocate`). -/

namespace TypeReport

variable (d : Dialect) (style : PathStyle)

namespace Location

theorem read_eq (line : Text) : read d style line = mapPath style <$> read d id line := by
  simp only [read, map_bind, apply_ite (mapPath style <$> ·), map_pure]
  rfl

theorem parse_eq (line : Text) : parse d style line = mapPath style <$> parse d id line := by
  rw [parse, parse, read_eq]
  cases read d id line <;> rfl

end Location

namespace Kind

theorem reference_eq (line? : Option Text) : line?.mapM (Location.parse d style) =
    Option.map (Location.mapPath style) <$> line?.mapM (Location.parse d id) := by
  cases line? with
  | none => rfl
  | some line =>
      simp only [Option.mapM_some, Location.parse_eq d style line, Functor.map_map]
      rfl

theorem parseInterface_eq (summary : Text) (ls : List Text) :
    parseInterface d style summary ls = mapPath style <$> parseInterface d id summary ls := by
  simp only [parseInterface, map_bind, map_pure, reference_eq d style, bind_map_left]
  rfl

theorem parse_eq (errorLine : Text) (rest : List Text) :
    parse d style errorLine rest = mapPath style <$> parse d id errorLine rest := by
  simp only [parse, apply_ite (mapPath style <$> ·), map_bind, map_pure, parseInterface_eq d style]
  rfl

end Kind

/-! ### Blocks -/

theorem Block.location?_eq (b : Block) :
    b.location? d style = (b.location? d id).map (·.mapPath style) := by
  rw [location?, location?]
  cases b.firstLine? with
  | none => rfl
  | some line =>
      rw [Option.bind_some, Option.bind_some, Location.read_eq d style]
      cases Location.read d id line <;> rfl

namespace Failure

/-- A failure with the place of a block without a body taken from the block's location. -/
def relocate (l? : Option Location) : Failure → Failure
  | missingErrorLine place => missingErrorLine ((l?.map (·.place)).getD place)
  | e => e

variable {e : Failure}

theorem relocate_none (e : Failure) : e.relocate none = e := by
  cases e <;> rfl

theorem relocate_eq_self (h : ∀ place, e ≠ .missingErrorLine place) (l? : Option Location) :
    e.relocate l? = e := by
  cases e with
  | missingErrorLine place => exact absurd rfl (h place)
  | _ => rfl

theorem IsOfBody.relocate_eq (h : e.IsOfBody) (l? : Option Location) : e.relocate l? = e := by
  cases h <;> rfl

end Failure

namespace Diagnostic

theorem parseBody_eq (l : Location) (ls : List Text) :
    parseBody d style (l.mapPath style) ls =
      ((parseBody d id l ls).map (mapPath style)).mapError
        (Failure.relocate (some (l.mapPath style))) := by
  cases h : parseBody d id l ls with
  | ok e =>
      obtain ⟨echoes, errorLine, rest, kind, hechoes, hbody, hkind, rfl⟩ := parseBody_eq_ok_iff.1 h
      refine parseBody_eq_ok_iff.2 ⟨echoes, errorLine, rest, _, hechoes, hbody, ?_, rfl⟩
      rw [Kind.parse_eq, hkind]
      rfl
  | error e =>
      refine parseBody_eq_error_iff.2 ?_
      rcases parseBody_eq_error_iff.1 h with
        hechoes | ⟨hechoes, ⟨hbody, rfl⟩ | ⟨errorLine, rest, hbody, hkind⟩⟩
      · obtain ⟨line, rfl⟩ := exists_eq_unexpectedLine hechoes
        exact .inl hechoes
      · exact .inr ⟨hechoes, .inl ⟨hbody, rfl⟩⟩
      · refine .inr ⟨hechoes, .inr ⟨errorLine, rest, hbody, ?_⟩⟩
        rw [(Kind.isOfBody_of_parse hkind).relocate_eq, Kind.parse_eq, hkind]
        rfl

/-- A block is read in a style as it is read with paths as they are. -/
theorem parse_eq (b : Block) : parse d style b =
    ((parse d id b).map (mapPath style)).mapError (Failure.relocate (b.location? d style)) := by
  cases hlines : b.lines with
  | nil =>
      simp only [parse, hlines]
      rfl
  | cons first rest =>
      rw [Block.location?_of_cons hlines, parse, parse, hlines]
      simp only [Location.parse, Location.read_eq d style]
      cases Location.read d id first with
      | error fault => rfl
      | ok l => exact parseBody_eq d style l rest

variable {d style}

theorem parse_eq_missingErrorLine {b : Block} {place : Text}
    (h : parse d style b = .error (.missingErrorLine place)) :
    ∃ first rest l, b.lines = first :: rest ∧ Location.parse d style first = .ok l ∧
      b.location? d style = some l ∧ l.place = place := by
  cases hlines : b.lines with
  | nil => simp [parse, hlines] at h
  | cons first rest =>
      rcases isBehind_of_parse hlines h with ⟨-, fault, hfault⟩ | ⟨l, hlocation, hbehind⟩
      · cases hfault
      · exact ⟨first, rest, l, rfl, (Block.location?_eq_some_iff hlines).1 hlocation, hlocation,
          hbehind.place_eq⟩

end Diagnostic
end TypeReport
