import TypeReport.Proofs.Command.Settings

/-! # What a command line asks for

A command line is answered by its first flag, else by its first argument that makes no
setting, else by a run with the last setting of each kind (`Request.IsAnswer`).  This is the
answer that is given to every command line, and the only one (`Request.ofArguments_eq_iff`).
So the order of arguments matters only within a kind (`Request.ofArguments_swap`), and saying
everything twice asks for the same (`Request.ofArguments_append_self`). -/

namespace TypeReport.Request

open Setting

/-! ### Flags -/

/-- Whether an argument is a flag that wins over everything else, and what it asks for. -/
inductive IsFlag : Text → Request → Prop where
  | help {a : Text} (h : a = "--help".toList ∨ a = "-h".toList) : IsFlag a .help
  | version {a : Text} (h : a = "--version".toList ∨ a = "-V".toList) : IsFlag a .version

variable {a b : Text} {r : Request} {x y : Setting} {arguments : List Text}
  {answer : Except UsageError Request}

theorem ofFlag?_eq_some_iff : ofFlag? a = some r ↔ IsFlag a r := by
  constructor
  · intro h
    unfold ofFlag? at h
    split at h
    case isTrue hhelp =>
      cases h
      exact .help hhelp
    case isFalse =>
      split at h
      case isTrue hversion =>
        cases h
        exact .version hversion
      case isFalse => cases h
  · intro h
    cases h with
    | help h => exact if_pos h
    | version h =>
        rcases h with rfl | rfl
        all_goals rfl

theorem ofFlag?_eq_none_iff : ofFlag? a = none ↔ ∀ r, ¬IsFlag a r := by
  simp only [← ofFlag?_eq_some_iff, Option.eq_none_iff_forall_ne_some, ne_eq]

theorem IsFlag.isFault (h : IsFlag a r) : IsFault a (.unexpectedArgument a) := by
  cases h with
  | help h =>
      rcases h with rfl | rfl
      all_goals exact .unexpected (by decide) rfl
  | version h =>
      rcases h with rfl | rfl
      all_goals exact .unexpected (by decide) rfl

theorem ofFlag?_of_writes (h : Writes a x) : ofFlag? a = none := by
  rw [ofFlag?_eq_none_iff]
  intro r hr
  have hfault := ofArgument_eq_error_iff.2 hr.isFault
  rw [ofArgument_eq_ok_iff.2 h] at hfault
  cases hfault

/-! ### Answers -/

/-- What a command line is answered with.  The first flag wins over everything else; without a flag,
the first argument that makes no setting is at fault; without either, each kind of setting is as the
arguments choose it. -/
inductive IsAnswer (arguments : List Text) : Except UsageError Request → Prop where
  | flag {before behind : List Text} {a : Text} {r : Request}
      (split : arguments = before ++ a :: behind) (first : ∀ b ∈ before, ∀ r, ¬IsFlag b r)
      (flag : IsFlag a r) : IsAnswer arguments (.ok r)
  | fault {before behind : List Text} {a : Text} {e : UsageError}
      (noFlag : ∀ b ∈ arguments, ∀ r, ¬IsFlag b r) (split : arguments = before ++ a :: behind)
      (first : ∀ b ∈ before, ∃ x, Writes b x) (fault : IsFault a e) : IsAnswer arguments (.error e)
  | run {o : Options} (noFlag : ∀ b ∈ arguments, ∀ r, ¬IsFlag b r)
      (valid : ∀ b ∈ arguments, ∃ x, Writes b x)
      (chosen : ∀ k, IsChosen arguments k (o.setting k)) : IsAnswer arguments (.ok (.run o))

theorem findSome?_ofFlag?_eq_none_iff :
    arguments.findSome? ofFlag? = none ↔ ∀ b ∈ arguments, ∀ r, ¬IsFlag b r := by
  simp only [List.findSome?_eq_none_iff, ofFlag?_eq_none_iff]

theorem mapM_ofArgument_eq_ok_iff {xs : List Setting} :
    arguments.mapM ofArgument = .ok xs ↔ List.Forall₂ Writes arguments xs := by
  simp only [mapM_eq_ok_iff, ofArgument_eq_ok_iff]

theorem isAnswer_ofArguments (arguments : List Text) :
    IsAnswer arguments (ofArguments arguments) := by
  unfold ofArguments
  cases hflag : arguments.findSome? ofFlag? with
  | some r =>
      obtain ⟨before, a, behind, hsplit, ha, hbefore⟩ := List.findSome?_eq_some_iff.1 hflag
      exact .flag hsplit (fun b hb => ofFlag?_eq_none_iff.1 (hbefore b hb))
        (ofFlag?_eq_some_iff.1 ha)
  | none =>
      have hnoFlag := findSome?_ofFlag?_eq_none_iff.1 hflag
      cases hread : arguments.mapM ofArgument with
      | error e =>
          obtain ⟨before, a, behind, hsplit, hbefore, ha⟩ := mapM_eq_error_iff.1 hread
          simp only [ofArgument_eq_ok_iff] at hbefore
          exact .fault hnoFlag hsplit hbefore (ofArgument_eq_error_iff.1 ha)
      | ok xs =>
          have hwrites := mapM_ofArgument_eq_ok_iff.1 hread
          have hvalid := exists_mapM_ok_iff.1 ⟨xs, hread⟩
          simp only [ofArgument_eq_ok_iff] at hvalid
          exact .run hnoFlag hvalid fun k => (isChosen_iff hwrites).2 rfl

theorem IsAnswer.ofArguments_eq (h : IsAnswer arguments answer) :
    ofArguments arguments = answer := by
  unfold ofArguments
  cases h with
  | @flag before behind a r hsplit hfirst hflag =>
      have hfound : arguments.findSome? ofFlag? = some r :=
        List.findSome?_eq_some_iff.2 ⟨_, _, _, hsplit, ofFlag?_eq_some_iff.2 hflag,
          fun b hb => ofFlag?_eq_none_iff.2 (hfirst b hb)⟩
      rw [hfound]
  | @fault before behind a e hnoFlag hsplit hfirst hfault =>
      have hread : arguments.mapM ofArgument = .error e := by
        refine mapM_eq_error_iff.2 ⟨_, _, _, hsplit, ?_, ofArgument_eq_error_iff.2 hfault⟩
        simpa only [ofArgument_eq_ok_iff] using hfirst
      rw [findSome?_ofFlag?_eq_none_iff.2 hnoFlag, hread]
      rfl
  | @run o hnoFlag hvalid hchosen =>
      obtain ⟨xs, hread⟩ : ∃ xs, arguments.mapM ofArgument = .ok xs := by
        rw [exists_mapM_ok_iff]
        simpa only [ofArgument_eq_ok_iff] using hvalid
      have hoptions : xs.foldl apply {} = o := by
        apply Options.ext_setting
        intro k
        exact (isChosen_iff (mapM_ofArgument_eq_ok_iff.1 hread)).1 (hchosen k)
      rw [findSome?_ofFlag?_eq_none_iff.2 hnoFlag, hread, ← hoptions]
      rfl

theorem ofArguments_eq_iff : ofArguments arguments = answer ↔ IsAnswer arguments answer := by
  constructor
  · rintro rfl
    exact isAnswer_ofArguments arguments
  · exact IsAnswer.ofArguments_eq

/-! ### Changes that make no difference -/

theorem mapM_ofArgument_neighbours (before behind : List Text) (ha : Writes a x)
    (hb : Writes b y) : (before ++ a :: b :: behind).mapM ofArgument =
      (before.mapM ofArgument).bind fun xs =>
        (behind.mapM ofArgument).map fun ys => xs ++ x :: y :: ys := by
  rw [List.mapM_append, mapM_cons_ok (ofArgument_eq_ok_iff.2 ha),
    mapM_cons_ok (ofArgument_eq_ok_iff.2 hb)]
  cases before.mapM ofArgument with
  | error e => rfl
  | ok xs =>
      cases behind.mapM ofArgument with
      | error e => rfl
      | ok ys => rfl

theorem ofArguments_swap (before behind : List Text) (ha : Writes a x) (hb : Writes b y)
    (h : x.kind ≠ y.kind) :
    ofArguments (before ++ b :: a :: behind) = ofArguments (before ++ a :: b :: behind) := by
  have hflags : (before ++ b :: a :: behind).findSome? ofFlag? =
      (before ++ a :: b :: behind).findSome? ofFlag? := by
    simp only [List.findSome?_append, List.findSome?_cons, ofFlag?_of_writes ha,
      ofFlag?_of_writes hb]
  have hoptions : ∀ xs ys : List Setting,
      (xs ++ y :: x :: ys).foldl apply {} = (xs ++ x :: y :: ys).foldl apply {} := by
    intro xs ys
    simp only [List.foldl_append, List.foldl_cons]
    rw [apply_comm h]
  unfold ofArguments
  rw [hflags, mapM_ofArgument_neighbours before behind ha hb,
    mapM_ofArgument_neighbours before behind hb ha]
  cases (before ++ a :: b :: behind).findSome? ofFlag? with
  | some r => rfl
  | none =>
      cases before.mapM ofArgument with
      | error e => rfl
      | ok xs =>
          cases behind.mapM ofArgument with
          | error e => rfl
          | ok ys => exact congrArg (fun o => Except.ok (Request.run o)) (hoptions xs ys)

theorem ofArguments_append_self (arguments : List Text) :
    ofArguments (arguments ++ arguments) = ofArguments arguments := by
  unfold ofArguments
  rw [List.findSome?_append, Option.or_self, List.mapM_append]
  cases arguments.findSome? ofFlag? with
  | some r => rfl
  | none =>
      cases arguments.mapM ofArgument with
      | error e => rfl
      | ok xs => exact congrArg (fun o => Except.ok (Request.run o)) (foldl_append_self xs {})

/-- A command line is answered by its first flag, else by its first fault, else with the last
setting of each kind.  Neighbours that make settings of different kinds may change places, and
saying everything twice makes no difference. -/
theorem ofArguments_last_wins (arguments : List Text) :
    (∀ answer, ofArguments arguments = answer ↔ IsAnswer arguments answer) ∧
    (∀ before a b behind x y, arguments = before ++ a :: b :: behind → Writes a x → Writes b y →
      x.kind ≠ y.kind → ofArguments (before ++ b :: a :: behind) = ofArguments arguments) ∧
    ofArguments (arguments ++ arguments) = ofArguments arguments := by
  refine ⟨fun answer => ofArguments_eq_iff, ?_, ofArguments_append_self arguments⟩
  rintro before a b behind x y rfl ha hb h
  exact ofArguments_swap before behind ha hb h

/-- The second format wins over the first, and may change places with a switch. -/
theorem ofArguments_last_wins_two_formats :
    Writes "-k".toList (.policy .isolate) ∧ Writes "--format=terminal".toList (.format .terminal) ∧
    (Setting.policy .isolate).kind ≠ (Setting.format .terminal).kind ∧
    ofArguments ["--format=json".toList, "--format=terminal".toList, "-k".toList] =
      ofArguments ["--format=json".toList, "-k".toList, "--format=terminal".toList] ∧
    ofArguments ["--format=json".toList, "-k".toList, "--format=terminal".toList] =
      .ok (.run { policy := .isolate }) := by
  have hk : Writes "-k".toList (.policy .isolate) := .switch rfl
  have hterminal : Writes "--format=terminal".toList (.format .terminal) :=
    ofArgument_eq_ok_iff.1 (by rfl)
  have hkind : (Setting.policy .isolate).kind ≠ (Setting.format .terminal).kind := by decide
  obtain ⟨-, hswap, -⟩ :=
    ofArguments_last_wins ["--format=json".toList, "-k".toList, "--format=terminal".toList]
  exact ⟨hk, hterminal, hkind, hswap ["--format=json".toList] _ _ [] _ _ rfl hk hterminal hkind,
    by rfl⟩

end TypeReport.Request
