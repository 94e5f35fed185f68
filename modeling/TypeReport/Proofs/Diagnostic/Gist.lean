import TypeReport.Diagnostic.Body
import TypeReport.Proofs.Leading

/-! # What matters of an interface mismatch

The lines behind the first line of an interface mismatch are the rest of its description,
then context, then the mismatch from its first boundary line on, and from the first
reference on what stands behind (`HasGist`).  Of these only the description, the mismatch
and the first two references are looked at, which are the gist of the lines.  Every list of
lines has one gist, and what is read depends on nothing else
(`parse_eq_of_hasGist`). -/

namespace TypeReport

/-- What matters of the lines behind the first line of an interface mismatch: the rest of the
description, the lines from the first boundary line up to the first reference, and the first two
references. -/
structure Gist where
  description : List Text
  mismatch : List Text
  references : List Text

namespace Kind

variable {d : Dialect} {style : PathStyle} {start : Text} {ls more rest context behind : List Text}
  {g : Gist}

/-- Whether a description that starts with a text goes on with the lines `more`, when the lines
`rest` follow: up to the first colon, or to the last line if there is none. -/
inductive Completes (start : Text) : List Text → List Text → Prop
  | start {rest : List Text} (colon : ':' ∈ start) : Completes start [] rest
  | line {before rest : List Text} {line : Text} (start_noColon : ':' ∉ start)
      (before_noColon : ∀ l ∈ before, ':' ∉ l) (colon : ':' ∈ line) :
      Completes start (before ++ [line]) rest
  | never {more : List Text} (start_noColon : ':' ∉ start) (more_noColon : ∀ l ∈ more, ':' ∉ l) :
      Completes start more []

/-- Whether some lines behind a description fall into context, the mismatch of a gist, and what
stands behind it, where the references of the gist come first. -/
structure IsLaidOut (d : Dialect) (g : Gist) (context behind : List Text) : Prop where
  context : ∀ l ∈ context, d.isBoundary l = false ∧ d.isReference l = false
  boundary : ∀ l ∈ g.mismatch.head?, d.isBoundary l = true
  mismatch : ∀ l ∈ g.mismatch, d.isReference l = false
  reference : ∀ l ∈ behind.head?, d.isReference l = true
  references : g.references = (behind.filter d.isReference).take 2

/-- Whether the lines behind the start of a description have a gist. -/
def HasGist (d : Dialect) (start : Text) (ls : List Text) (g : Gist) : Prop :=
  ∃ context behind, ls = g.description ++ (context ++ g.mismatch ++ behind) ∧
    Completes start g.description (context ++ g.mismatch ++ behind) ∧ IsLaidOut d g context behind

/-! ### Descriptions -/

theorem hasColon_iff {line : Text} : hasColon line = true ↔ ':' ∈ line := by
  simp [hasColon]

theorem hasColon_eq_false_iff {line : Text} : hasColon line = false ↔ ':' ∉ line := by
  rw [← hasColon_iff, Bool.not_eq_true]

theorem Completes.eq_nil (h : Completes start more rest) (hstart : ':' ∈ start) : more = [] := by
  cases h with
  | start => rfl
  | line hno => exact absurd hstart hno
  | never hno => exact absurd hstart hno

theorem Completes.throughColon_append (h : Completes start more rest) (hstart : ':' ∉ start) :
    throughColon (more ++ rest) = more ∧ pastColon (more ++ rest) = rest := by
  have hnot {ls : List Text} (h : ∀ l ∈ ls, ':' ∉ l) : ∀ l ∈ ls, (!hasColon l) = true := by
    intro l hl
    rw [hasColon_eq_false_iff.2 (h l hl)]
    rfl
  rw [throughColon, pastColon]
  cases h with
  | start hcolon => exact absurd hcolon hstart
  | @line before rest line _ hbefore hline =>
      have hcolon : (!hasColon line) = false := by simpa using hasColon_iff.2 hline
      rw [List.append_assoc, List.singleton_append, takeWhile_append_cons (hnot hbefore) hcolon,
        dropWhile_append_cons (hnot hbefore) hcolon]
      exact ⟨rfl, rfl⟩
  | never _ hmore =>
      rw [takeWhile_append_eq (hnot hmore) (by simp), dropWhile_append_eq (hnot hmore) (by simp)]
      exact ⟨List.append_nil more, rfl⟩

theorem completes_throughColon (hstart : ':' ∉ start) (ls : List Text) :
    Completes start (throughColon ls) (pastColon ls) := by
  have hbefore : ∀ l ∈ ls.takeWhile (!hasColon ·), ':' ∉ l := by
    intro l hl
    have hcolon := List.mem_takeWhile_imp hl
    exact hasColon_eq_false_iff.1 (by simpa using hcolon)
  rw [throughColon, pastColon]
  cases hdrop : ls.dropWhile (!hasColon ·) with
  | nil =>
      rw [List.take_nil, List.append_nil]
      exact .never hstart hbefore
  | cons line rest =>
      have hhead : line ∈ (ls.dropWhile (!hasColon ·)).head? := by
        rw [hdrop]
        rfl
      have hline := of_mem_head?_dropWhile hhead
      exact .line hstart hbefore (hasColon_iff.1 (by simpa using hline))

/-! ### Layouts -/

namespace IsLaidOut

variable (h : IsLaidOut d g context behind)

include h

theorem takeWhile_append :
    (context ++ g.mismatch ++ behind).takeWhile (!d.isReference ·) = context ++ g.mismatch := by
  apply takeWhile_append_eq
  · intro l hl
    rcases List.mem_append.1 hl with hl | hl
    · simp [(h.context l hl).2]
    · simp [h.mismatch l hl]
  · intro l hl
    simp [h.reference l hl]

theorem dropWhile_append : (context ++ g.mismatch).dropWhile (!d.isBoundary ·) = g.mismatch := by
  apply dropWhile_append_eq
  · intro l hl
    simp [(h.context l hl).1]
  · intro l hl
    simp [h.boundary l hl]

theorem filter_append :
    (context ++ g.mismatch ++ behind).filter d.isReference = behind.filter d.isReference := by
  have hcontext : context.filter d.isReference = [] :=
    List.filter_eq_nil_iff.2 fun l hl => by simp [(h.context l hl).2]
  have hmismatch : g.mismatch.filter d.isReference = [] :=
    List.filter_eq_nil_iff.2 fun l hl => by simp [h.mismatch l hl]
  rw [List.filter_append, List.filter_append, hcontext, hmismatch, List.nil_append,
    List.nil_append]

theorem getElem?_references {i : Nat} (hi : i < 2) :
    ((context ++ g.mismatch ++ behind).filter d.isReference)[i]? = g.references[i]? := by
  rw [h.filter_append, h.references, List.getElem?_take_of_lt hi]

end IsLaidOut

/-- Lines behind a description fall into context, a mismatch and what stands behind. -/
theorem exists_isLaidOut (d : Dialect) (more ls : List Text) :
    ∃ g context behind, g.description = more ∧ ls = context ++ g.mismatch ++ behind ∧
      IsLaidOut d g context behind := by
  have hbody (l : Text) (hl : l ∈ ls.takeWhile (!d.isReference ·)) : d.isReference l = false := by
    simpa using List.mem_takeWhile_imp hl
  refine ⟨⟨more, (ls.takeWhile (!d.isReference ·)).dropWhile (!d.isBoundary ·),
      ((ls.dropWhile (!d.isReference ·)).filter d.isReference).take 2⟩,
    (ls.takeWhile (!d.isReference ·)).takeWhile (!d.isBoundary ·),
    ls.dropWhile (!d.isReference ·), rfl, ?_, ?_⟩
  · rw [List.takeWhile_append_dropWhile, List.takeWhile_append_dropWhile]
  · constructor
    case context =>
      intro l hl
      exact ⟨by simpa using List.mem_takeWhile_imp hl, hbody l (List.takeWhile_subset _ hl)⟩
    case boundary =>
      intro l hl
      simpa using of_mem_head?_dropWhile hl
    case mismatch => exact fun l hl => hbody l (List.dropWhile_subset _ hl)
    case reference =>
      intro l hl
      simpa using of_mem_head?_dropWhile hl
    case references => rfl

/-! ### Gists -/

theorem exists_hasGist (d : Dialect) (start : Text) (ls : List Text) : ∃ g, HasGist d start ls g := by
  by_cases hstart : ':' ∈ start
  · obtain ⟨g, context, behind, hdescription, rfl, hlaidOut⟩ := exists_isLaidOut d [] ls
    refine ⟨g, context, behind, ?_, ?_, hlaidOut⟩
    · rw [hdescription, List.nil_append]
    · rw [hdescription]
      exact .start hstart
  · obtain ⟨g, context, behind, hdescription, hpast, hlaidOut⟩ :=
      exists_isLaidOut d (throughColon ls) (pastColon ls)
    refine ⟨g, context, behind, ?_, ?_, hlaidOut⟩
    · rw [hdescription, ← hpast, throughColon_append_pastColon]
    · rw [hdescription, ← hpast]
      exact completes_throughColon hstart ls

namespace HasGist

theorem description_eq (h : HasGist d start ls g) :
    ∃ context behind, IsLaidOut d g context behind ∧
      g.description = (if hasColon start then [] else throughColon ls) ∧
      context ++ g.mismatch ++ behind = if hasColon start then ls else pastColon ls := by
  obtain ⟨context, behind, rfl, hcompletes, hlaidOut⟩ := h
  refine ⟨context, behind, hlaidOut, ?_⟩
  by_cases hstart : ':' ∈ start
  · rw [if_pos (hasColon_iff.2 hstart), if_pos (hasColon_iff.2 hstart)]
    rw [hcompletes.eq_nil hstart]
    exact ⟨rfl, rfl⟩
  · have hno : ¬ hasColon start = true := fun h => hstart (hasColon_iff.1 h)
    obtain ⟨hthrough, hpast⟩ := hcompletes.throughColon_append hstart
    rw [if_neg hno, if_neg hno, hthrough, hpast]
    exact ⟨rfl, rfl⟩

theorem unique {g' : Gist} (h : HasGist d start ls g) (h' : HasGist d start ls g') : g = g' := by
  obtain ⟨context, behind, hlaidOut, hdescription, hrest⟩ := h.description_eq
  obtain ⟨context', behind', hlaidOut', hdescription', hrest'⟩ := h'.description_eq
  have hsame : context ++ g.mismatch ++ behind = context' ++ g'.mismatch ++ behind' :=
    hrest.trans hrest'.symm
  have hfront : context ++ g.mismatch = context' ++ g'.mismatch := by
    rw [← hlaidOut.takeWhile_append, ← hlaidOut'.takeWhile_append, hsame]
  have hmismatch : g.mismatch = g'.mismatch := by
    rw [← hlaidOut.dropWhile_append, ← hlaidOut'.dropWhile_append, hfront]
  have hreferences : g.references = g'.references := by
    rw [hlaidOut.references, hlaidOut'.references, ← hlaidOut.filter_append,
      ← hlaidOut'.filter_append, hsame]
  obtain ⟨description, mismatch, references⟩ := g
  obtain ⟨description', mismatch', references'⟩ := g'
  exact congr (congr (congrArg Gist.mk (hdescription.trans hdescription'.symm)) hmismatch)
    hreferences

end HasGist

/-- What is read from the gist of an interface mismatch, behind the start of its description. -/
def ofGist (d : Dialect) (style : PathStyle) (start : Text) (g : Gist) : Except Failure Kind := do
  let backtrace ← Backtrace.parse d g.mismatch
  let expected ← g.references[0]?.mapM (Location.parse d style)
  let actual ← g.references[1]?.mapM (Location.parse d style)
  return .interfaceMismatch (start ++ g.description.flatMap fun line => ' ' :: line.trim) actual
    expected backtrace

theorem IsLaidOut.parseInterface_eq (h : IsLaidOut d g context behind) (style : PathStyle)
    (start : Text) :
    parseInterface d style (start ++ g.description.flatMap fun line => ' ' :: line.trim)
        (context ++ g.mismatch ++ behind) = ofGist d style start g := by
  simp only [parseInterface, ofGist, h.takeWhile_append, h.dropWhile_append,
    h.getElem?_references (show 0 < 2 by decide), h.getElem?_references (show 1 < 2 by decide)]

/-- Whether a line opens the body of an interface mismatch. -/
def OpensInterface (d : Dialect) (errorLine : Text) : Prop :=
  ¬ d.expressionOpening <+: description d errorLine ∧ d.interfaceOpening <+: description d errorLine

theorem HasGist.parse_eq {errorLine : Text} (hopens : OpensInterface d errorLine)
    (h : HasGist d (description d errorLine) ls g) (style : PathStyle) :
    parse d style errorLine ls = ofGist d style (description d errorLine) g := by
  obtain ⟨hexpression, hinterface⟩ := hopens
  obtain ⟨context, behind, hlaidOut, hdescription, hrest⟩ := h.description_eq
  have hparse := hlaidOut.parseInterface_eq style (description d errorLine)
  rw [← hparse, parse]
  dsimp only
  rw [if_neg (mt Text.startsWith_iff.1 hexpression), if_pos (Text.startsWith_iff.2 hinterface),
    hdescription, hrest]
  split
  case isTrue => rw [List.flatMap_nil, List.append_nil]
  case isFalse => rfl

/-- The body of an interface mismatch has one gist, and bodies with the same gist are read the
same, or cannot be read for the same reason. -/
theorem parse_eq_of_hasGist (d : Dialect) (style : PathStyle) {errorLine : Text}
    (hopens : OpensInterface d errorLine) :
    (∀ ls, ∃! g, HasGist d (description d errorLine) ls g) ∧
    ∀ ls ms g, HasGist d (description d errorLine) ls g →
      HasGist d (description d errorLine) ms g →
        parse d style errorLine ls = parse d style errorLine ms := by
  constructor
  · intro ls
    obtain ⟨g, hg⟩ := exists_hasGist d (description d errorLine) ls
    exact ⟨g, hg, fun g' hg' => hg'.unique hg⟩
  · intro ls ms g hls hms
    rw [hls.parse_eq hopens, hms.parse_eq hopens]

/-- Another context, and behind the first reference another mismatch and a malformed third
reference. -/
theorem parse_eq_of_hasGist_third_reference :
    OpensInterface .ocaml4 "Error: The implementation a.ml".toList ∧
      parse .ocaml4 id "Error: The implementation a.ml".toList
          [" does not match the interface".toList, " a.cmi:".toList, "In module M:".toList,
            " Type t is not compatible with type u".toList, "File \"a.mli\", line 1:".toList,
            " File \"a.ml\", line 2:".toList] =
        parse .ocaml4 id "Error: The implementation a.ml".toList
          [" does not match the interface".toList, " a.cmi:".toList, "In module N:".toList, [],
            " Type t is not compatible with type u".toList, "File \"a.mli\", line 1:".toList,
            " Type v is not included in type w".toList, " File \"a.ml\", line 2:".toList,
            "File \"".toList] := by
  have hopens : OpensInterface .ocaml4 "Error: The implementation a.ml".toList := by
    unfold OpensInterface
    decide
  have hcompletes (rest : List Text) :
      Completes (description .ocaml4 "Error: The implementation a.ml".toList)
        [" does not match the interface".toList, " a.cmi:".toList] rest :=
    @Completes.line _ [" does not match the interface".toList] rest _ (by decide) (by decide)
      (by decide)
  obtain ⟨-, hsame⟩ := parse_eq_of_hasGist .ocaml4 id hopens
  refine ⟨hopens, hsame _ _
    ⟨[" does not match the interface".toList, " a.cmi:".toList],
      [" Type t is not compatible with type u".toList],
      ["File \"a.mli\", line 1:".toList, " File \"a.ml\", line 2:".toList]⟩ ?_ ?_⟩
  · exact ⟨["In module M:".toList],
      ["File \"a.mli\", line 1:".toList, " File \"a.ml\", line 2:".toList], rfl, hcompletes _,
      by decide, by decide, by decide, by decide, by decide⟩
  · exact ⟨["In module N:".toList, []],
      ["File \"a.mli\", line 1:".toList, " Type v is not included in type w".toList,
        " File \"a.ml\", line 2:".toList, "File \"".toList], rfl, hcompletes _,
      by decide, by decide, by decide, by decide, by decide⟩

end Kind
end TypeReport
