import TypeReport.Path
import TypeReport.Proofs.Text.Printed

/-! # Paths as seen from a base

The components of a path that starts at a base are those of the base and then its own
(`components_append`).  An absolute path below the base loses just the components of the
base (`components_of_below?`), so what remains of it names the same file from the base
on.  A relative path may lose one `./`, which names nothing.  But when a separator follows
there, what remains is an absolute path, and the base is lost with it
(`areSame_resolve_relativeTo_iff`). -/

namespace TypeReport.Path

variable {base p : Text}

/-- Whether two paths lead to the same file: both start at the root or neither does, and they have
the same components. -/
def AreSame (p q : Text) : Prop := isAbsolute p = isAbsolute q ∧ components p = components q

instance (p q : Text) : Decidable (AreSame p q) := inferInstanceAs (Decidable (_ ∧ _))

/-! ### Segments and components -/

theorem not_mem_of_mem_segments {s : Text} (h : s ∈ segments p) : '/' ∉ s :=
  Text.not_mem_of_mem_splitOn h

theorem segments_join {ss : List Text} (hne : ss ≠ []) (h : ∀ s ∈ ss, '/' ∉ s) :
    segments (join ss) = ss :=
  List.splitOn_intercalate '/' h hne

theorem components_append (a b : Text) :
    components (a ++ '/' :: b) = components a ++ components b := by
  rw [components, segments, List.splitOn_append_cons_self, List.filter_append]
  rfl

theorem components_cons (q : Text) : components ('/' :: q) = components q :=
  components_append [] q

theorem components_join {ss : List Text} (h : ∀ s ∈ ss, '/' ∉ s) :
    components (join ss) = ss.filter (!isIdle ·) := by
  cases ss with
  | nil => rfl
  | cons s ss => rw [components, segments_join (List.cons_ne_nil s ss) h]

theorem exists_eq_cons (h : isAbsolute p = true) : ∃ q, p = '/' :: q := by
  cases p with
  | nil => cases h
  | cons c q =>
      have hc : c = '/' := by simpa [isAbsolute] using h
      exact ⟨q, by rw [hc]⟩

/-! ### Idle segments -/

theorem filter_dropWhile_isIdle (ss : List Text) :
    (ss.dropWhile isIdle).filter (!isIdle ·) = ss.filter (!isIdle ·) := by
  have hnil : (ss.takeWhile isIdle).filter (!isIdle ·) = [] := by
    rw [List.filter_eq_nil_iff]
    intro s hs
    simp [List.mem_takeWhile_imp hs]
  have hparts := congrArg (List.filter (!isIdle ·))
    (List.takeWhile_append_dropWhile (p := isIdle) (l := ss))
  rwa [List.filter_append, hnil, List.nil_append] at hparts

theorem filter_trimEndIdle (ss : List Text) :
    (trimEndIdle ss).filter (!isIdle ·) = ss.filter (!isIdle ·) := by
  rw [trimEndIdle, List.filter_reverse, filter_dropWhile_isIdle, ← List.filter_reverse,
    List.reverse_reverse]

theorem filter_trimIdle (ss : List Text) :
    (trimIdle ss).filter (!isIdle ·) = ss.filter (!isIdle ·) := by
  rw [trimIdle, filter_trimEndIdle, filter_dropWhile_isIdle]

theorem exists_trimEndIdle_append (ss : List Text) : ∃ rest, trimEndIdle ss ++ rest = ss := by
  obtain ⟨rest, hrest⟩ := List.dropWhile_suffix isIdle (l := ss.reverse)
  refine ⟨rest.reverse, ?_⟩
  rw [trimEndIdle, ← List.reverse_append, hrest, List.reverse_reverse]

theorem trimIdle_subset (ss : List Text) : trimIdle ss ⊆ ss := by
  obtain ⟨rest, hrest⟩ := exists_trimEndIdle_append (ss.dropWhile isIdle)
  intro s hs
  refine List.dropWhile_subset isIdle ?_
  rw [← hrest]
  exact List.mem_append_left rest hs

theorem isIdle_of_head?_trimIdle {ss : List Text} {s : Text} (h : s ∈ (trimIdle ss).head?) :
    isIdle s = false := by
  obtain ⟨rest, hrest⟩ := exists_trimEndIdle_append (ss.dropWhile isIdle)
  have hhead : s ∈ (ss.dropWhile isIdle).head? := by
    rw [← hrest, ← trimIdle, List.head?_append, h]
    rfl
  exact of_mem_head?_dropWhile hhead

theorem isAbsolute_join_trimIdle {ss : List Text} (h : ∀ s ∈ ss, '/' ∉ s) :
    isAbsolute (join (trimIdle ss)) = false := by
  have hmem := trimIdle_subset ss
  cases htrim : trimIdle ss with
  | nil => rfl
  | cons s rest =>
      have hidle : isIdle s = false := isIdle_of_head?_trimIdle (by rw [htrim]; rfl)
      have hs : '/' ∉ s := h s (hmem (by rw [htrim]; exact List.mem_cons_self))
      cases s with
      | nil => cases hidle
      | cons c s =>
          have hc : c ≠ '/' := fun hc => hs (by rw [hc]; exact List.mem_cons_self)
          have hhead : (join ((c :: s) :: rest)).head? = some c := by
            cases rest <;> simp [join, List.intercalate]
          rw [isAbsolute, hhead]
          simpa using hc

/-! ### Below a base -/

theorem dropComponents_eq_some {cs ss rest : List Text} (h : dropComponents cs ss = some rest) :
    rest <:+ ss ∧ ss.filter (!isIdle ·) = cs ++ rest.filter (!isIdle ·) := by
  fun_induction dropComponents cs ss with
  | case1 ss =>
      cases h
      exact ⟨List.suffix_refl _, rfl⟩
  | case2 => cases h
  | case3 c cs s ss hidle ih =>
      obtain ⟨hsuffix, hfilter⟩ := ih h
      refine ⟨hsuffix.trans (List.suffix_cons s ss), ?_⟩
      rw [List.filter_cons_of_neg (by simp [hidle]), hfilter]
  | case4 cs s ss hidle ih =>
      obtain ⟨hsuffix, hfilter⟩ := ih h
      refine ⟨hsuffix.trans (List.suffix_cons s ss), ?_⟩
      rw [List.filter_cons_of_pos (by simpa using hidle), hfilter]
      rfl
  | case5 => cases h

/-- What remains of a path below a base is relative, and has the components that the base lacks. -/
theorem components_of_below? (hbase : isAbsolute base = true) (hp : isAbsolute p = true)
    {rest : Text} (h : below? base p = some rest) :
    isAbsolute rest = false ∧ components p = components base ++ components rest := by
  obtain ⟨q, rfl⟩ := exists_eq_cons hp
  have hne : base ≠ [] := by
    rintro rfl
    cases hbase
  have hinner : (segments ('/' :: q)).tail = segments q := by
    rw [segments, show '/' :: q = [] ++ '/' :: q from rfl, List.splitOn_append_cons_self]
    rfl
  rw [below?, if_neg hne, if_pos hbase, hinner] at h
  obtain ⟨ss, hdrop, rfl⟩ := Option.map_eq_some_iff.1 h
  obtain ⟨hsuffix, hfilter⟩ := dropComponents_eq_some hdrop
  have hss : ∀ s ∈ ss, '/' ∉ s := fun s hs => not_mem_of_mem_segments (hsuffix.subset hs)
  refine ⟨isAbsolute_join_trimIdle hss, ?_⟩
  have hjoin : components ((join ∘ trimIdle) ss) = ss.filter (!isIdle ·) := by
    rw [Function.comp_apply, components_join fun s hs => hss s (trimIdle_subset ss hs),
      filter_trimIdle]
  rw [hjoin, components_cons]
  exact hfilter

/-! ### Resolving -/

theorem isAbsolute_resolve (hbase : isAbsolute base = true) (p : Text) :
    isAbsolute (resolve base p) = true := by
  unfold resolve
  split
  case isTrue hp => exact hp
  case isFalse =>
    obtain ⟨b, rfl⟩ := exists_eq_cons hbase
    rfl

theorem components_resolve_of_isAbsolute (hp : isAbsolute p = true) :
    components (resolve base p) = components p := by
  rw [resolve, if_pos hp]

theorem components_resolve_of_not_isAbsolute (hp : isAbsolute p = false) :
    components (resolve base p) = components base ++ components p := by
  rw [resolve, if_neg (by simp [hp]), components_append]

theorem components_resolve_relativeTo_of_isAbsolute (hbase : isAbsolute base = true)
    (hp : isAbsolute p = true) :
    components (resolve base (relativeTo base p)) = components p := by
  rw [relativeTo, if_pos hp]
  split
  case h_1 => exact components_resolve_of_isAbsolute hp
  case h_2 => exact components_resolve_of_isAbsolute hp
  case h_3 rest _ hrest =>
    obtain ⟨hrelative, hcomponents⟩ := components_of_below? hbase hp hrest
    rw [components_resolve_of_not_isAbsolute hrelative, hcomponents]

theorem components_dot (q : Text) : components ('.' :: '/' :: q) = components q :=
  components_append ['.'] q

/-- A relative path stays as it is, or loses one `./`. -/
theorem relativeTo_cases (base : Text) (hp : isAbsolute p = false) :
    (¬ "./".toList <+: p ∧ relativeTo base p = p) ∨
      ∃ q, p = '.' :: '/' :: q ∧ relativeTo base p = q := by
  rw [relativeTo, if_neg (by simp [hp])]
  cases hafter : p.after? "./".toList with
  | none =>
      refine .inl ⟨?_, rfl⟩
      rintro ⟨q, rfl⟩
      rw [Text.after?_append] at hafter
      cases hafter
  | some q => exact .inr ⟨q, Text.after?_eq_some_iff.1 hafter, rfl⟩

theorem dot_prefix_iff {q : Text} : ".//".toList <+: '.' :: '/' :: q ↔ isAbsolute q = true := by
  cases q with
  | nil => decide
  | cons c q =>
      have hdots : ".//".toList <+: '.' :: '/' :: c :: q ↔ '/' = c := by
        simp [List.cons_prefix_cons]
      rw [hdots, isAbsolute, List.head?_cons, decide_eq_true_eq, Option.some_inj, eq_comm]

/-- As seen from an absolute base, a path leads to the same file as before, exactly when it does not
start with a dot and two separators, unless the base is the root. -/
theorem areSame_resolve_relativeTo_iff (hbase : isAbsolute base = true) (p : Text) :
    AreSame (resolve base (relativeTo base p)) (resolve base p) ↔
      ¬ ".//".toList <+: p ∨ components base = [] := by
  rw [AreSame, isAbsolute_resolve hbase, isAbsolute_resolve hbase, and_iff_right rfl]
  cases hp : isAbsolute p with
  | true =>
      obtain ⟨q, rfl⟩ := exists_eq_cons hp
      refine iff_of_true ?_ (.inl ?_)
      · rw [components_resolve_relativeTo_of_isAbsolute hbase hp,
          components_resolve_of_isAbsolute hp]
      · simp [List.cons_prefix_cons]
  | false =>
      rcases relativeTo_cases base hp with ⟨hnot, hkeep⟩ | ⟨q, rfl, hlose⟩
      · refine iff_of_true (by rw [hkeep]) (.inl fun hdots => hnot ?_)
        exact List.IsPrefix.trans (by decide) hdots
      · rw [hlose, dot_prefix_iff, components_resolve_of_not_isAbsolute hp, components_dot]
        cases hq : isAbsolute q with
        | true =>
            -- What remains is an absolute path, so the components of the base are gone.
            rw [components_resolve_of_isAbsolute hq, List.self_eq_append_left]
            simp
        | false =>
            refine iff_of_true ?_ (.inl Bool.false_ne_true)
            rw [components_resolve_of_not_isAbsolute hq]

/-- The base and the path are spelt with idle segments, and differently. -/
theorem areSame_resolve_relativeTo_idle :
    isAbsolute "/home//dev/./project/".toList = true ∧
      relativeTo "/home//dev/./project/".toList "/home/dev//project/./src//../a.ml/".toList =
        "src//../a.ml".toList ∧
      AreSame
        (resolve "/home//dev/./project/".toList
          (relativeTo "/home//dev/./project/".toList "/home/dev//project/./src//../a.ml/".toList))
        (resolve "/home//dev/./project/".toList "/home/dev//project/./src//../a.ml/".toList) :=
  ⟨rfl, by decide +kernel, (areSame_resolve_relativeTo_iff rfl _).2 (.inl (by decide))⟩

/-- A relative path becomes an absolute one, and leads out of the base. -/
theorem not_areSame_resolve_relativeTo_dot :
    isAbsolute "/w".toList = true ∧ relativeTo "/w".toList ".//a.ml".toList = "/a.ml".toList ∧
      ¬ AreSame (resolve "/w".toList (relativeTo "/w".toList ".//a.ml".toList))
        (resolve "/w".toList ".//a.ml".toList) := by
  decide +kernel

end TypeReport.Path
