import TypeReport.Backtrace.Binding
import TypeReport.Proofs.Text.Words

/-! # Where a binding reappears

A text with exactly one equals sign binds what stands before it, and the name of the
binding is the last word of that head in front of a type annotation.  `IsMark` says where
such a binding reappears in another text: where its head occurs first, and if the head does
not occur at all, where its name first stands alone.  `mark?` finds this place and no
other (`mark?_eq_iff_isMark`).

The head is looked for as it stands, so what is marked can be the start or the end of a
longer identifier.  This happens just when the first place of the head is such a one
(`isWhole_mark?_iff`). -/

namespace TypeReport.Binding

open Text

variable {previous current s head name : Text}

/-! ### Heads and names -/

/-- Whether `head` is what stands before the only equals sign of `s`, without the blanks around
it. -/
structure IsHead (s head : Text) : Prop where
  ne_nil : head ≠ []
  exists_parts : ∃ before behind, s = before ++ '=' :: behind ∧ '=' ∉ before ∧ '=' ∉ behind ∧
    trim before = head

/-- Whether `name` is the identifier that a head binds: its last word in front of the first
colon. -/
structure IsName (head name : Text) : Prop where
  last : IsLastWord (head.takeWhile (· ≠ ':')) name
  isIdentifier : isIdentifier name = true

theorem ne_nil_of_head? (h : head? s = some head) : head ≠ [] := by
  unfold head? at h
  split at h
  case h_1 head' _ _ =>
    split at h
    case isTrue => cases h
    case isFalse hne =>
      cases h
      exact hne
  case h_2 => cases h

theorem head?_eq_some_iff : head? s = some head ↔ IsHead s head := by
  constructor
  · intro h
    refine ⟨ne_nil_of_head? h, ?_⟩
    unfold head? at h
    split at h
    case h_1 before behind hsplit =>
      obtain ⟨hs, hbefore, hbehind⟩ := splitOn_eq_pair_iff.1 hsplit
      split at h
      case isTrue => cases h
      case isFalse =>
        cases h
        exact ⟨before, behind, hs, hbefore, hbehind, rfl⟩
    case h_2 => cases h
  · rintro ⟨hne, before, behind, hparts, hbefore, hbehind, rfl⟩
    have hsplit : s.splitOn '=' = [before, behind] :=
      splitOn_eq_pair_iff.2 ⟨hparts, hbefore, hbehind⟩
    rw [head?, hsplit]
    exact if_neg hne

theorem name?_eq_some_iff : name? head = some name ↔ IsName head name := by
  rw [name?, Option.filter_eq_some_iff, getLast?_words_eq_some_iff]
  exact ⟨fun h => ⟨h.1, h.2⟩, fun h => ⟨h.last, h.isIdentifier⟩⟩

theorem all_isIdentifierChar (h : isIdentifier name = true) :
    ∀ c ∈ name, isIdentifierChar c = true := by
  cases name with
  | nil => cases h
  | cons c s =>
      rw [isIdentifier, Bool.and_eq_true] at h
      exact List.all_eq_true.1 h.2

namespace IsName

theorem wordSpan?_eq_some_iff (h : IsName head name) {r : Span} : wordSpan? s name = some r ↔
    ∃ before behind, IsFirstPlace IsApart s name before behind ∧ r = spanBehind before name :=
  Text.wordSpan?_eq_some_iff h.last.ne_nil (all_isIdentifierChar h.isIdentifier)

theorem wordSpan?_eq_none_iff (h : IsName head name) : wordSpan? s name = none ↔
    ∀ before behind, before ++ name ++ behind = s → ¬ IsApart before behind :=
  Text.wordSpan?_eq_none_iff h.last.ne_nil (all_isIdentifierChar h.isIdentifier)

end IsName

/-! ### Marks -/

/-- Where the binding of a text reappears in another: at the first place of its head, or, where the
head does not occur, at the first place at which its name stands alone. -/
inductive IsMark (previous current : Text) : Option Span → Prop
  | unbound (unbound : ∀ head, ¬ IsHead previous head) : IsMark previous current none
  | head {head before behind : Text} (isHead : IsHead previous head)
      (place : IsFirstPlace (fun _ _ => True) current head before behind) :
      IsMark previous current (some (spanBehind before head))
  | name {head name before behind : Text} (isHead : IsHead previous head)
      (absent : ¬ head <:+: current) (isName : IsName head name) (ne_head : name ≠ head)
      (place : IsFirstPlace IsApart current name before behind) :
      IsMark previous current (some (spanBehind before name))
  | unused {head name : Text} (isHead : IsHead previous head) (absent : ¬ head <:+: current)
      (isName : IsName head name) (ne_head : name ≠ head)
      (nowhere : ∀ before behind, before ++ name ++ behind = current → ¬ IsApart before behind) :
      IsMark previous current none
  | unnamed {head : Text} (isHead : IsHead previous head) (absent : ¬ head <:+: current)
      (unnamed : ∀ name, IsName head name → name = head) : IsMark previous current none

theorem exists_isMark (previous current : Text) : ∃ o, IsMark previous current o := by
  cases hhead : head? previous with
  | none =>
      refine ⟨none, .unbound fun head h => ?_⟩
      rw [head?_eq_some_iff.2 h] at hhead
      cases hhead
  | some head =>
      have hisHead := head?_eq_some_iff.1 hhead
      cases hspan : spanOf? current head with
      | some r =>
          obtain ⟨before, behind, hplace, -⟩ := spanOf?_eq_some_iff.1 hspan
          exact ⟨_, .head hisHead hplace⟩
      | none =>
          have habsent := spanOf?_eq_none_iff.1 hspan
          by_cases hname : ∃ name, IsName head name ∧ name ≠ head
          case pos =>
            obtain ⟨name, hisName, hne⟩ := hname
            cases hword : wordSpan? current name with
            | some r =>
                obtain ⟨before, behind, hplace, -⟩ := hisName.wordSpan?_eq_some_iff.1 hword
                exact ⟨_, .name hisHead habsent hisName hne hplace⟩
            | none =>
                have hnowhere := hisName.wordSpan?_eq_none_iff.1 hword
                exact ⟨none, .unused hisHead habsent hisName hne hnowhere⟩
          case neg =>
            refine ⟨none, .unnamed hisHead habsent fun name h => ?_⟩
            exact Decidable.not_not.1 fun hne => hname ⟨name, h, hne⟩

theorem mark?_of_isHead (h : IsHead previous head) : mark? previous current =
    match spanOf? current head with
    | some span => some span
    | none =>
        (name? head).bind fun name => if name = head then none else wordSpan? current name := by
  rw [mark?, head?_eq_some_iff.2 h]
  rfl

theorem mark?_of_absent (h : IsHead previous head) (habsent : ¬ head <:+: current) :
    mark? previous current =
      (name? head).bind fun name => if name = head then none else wordSpan? current name := by
  rw [mark?_of_isHead h, spanOf?_eq_none_iff.2 habsent]

theorem mark?_of_isName (h : IsHead previous head) (habsent : ¬ head <:+: current)
    (hname : IsName head name) (hne : name ≠ head) :
    mark? previous current = wordSpan? current name := by
  rw [mark?_of_absent h habsent, name?_eq_some_iff.2 hname, Option.bind_some, if_neg hne]

theorem IsMark.mark?_eq {o : Option Span} (h : IsMark previous current o) :
    mark? previous current = o := by
  cases h with
  | unbound hunbound =>
      cases hhead : head? previous with
      | none =>
          rw [mark?, hhead]
          rfl
      | some head => exact absurd (head?_eq_some_iff.1 hhead) (hunbound head)
  | head hhead hplace =>
      rw [mark?_of_isHead hhead, spanOf?_eq_some_iff.2 ⟨_, _, hplace, rfl⟩]
  | name hhead habsent hname hne hplace =>
      rw [mark?_of_isName hhead habsent hname hne]
      exact hname.wordSpan?_eq_some_iff.2 ⟨_, _, hplace, rfl⟩
  | unused hhead habsent hname hne hnowhere =>
      rw [mark?_of_isName hhead habsent hname hne]
      exact hname.wordSpan?_eq_none_iff.2 hnowhere
  | @unnamed head hhead habsent hunnamed =>
      rw [mark?_of_absent hhead habsent]
      cases hname : name? head with
      | none => rfl
      | some name =>
          rw [Option.bind_some, if_pos (hunnamed name (name?_eq_some_iff.1 hname))]

theorem isMark_iff {o : Option Span} : IsMark previous current o ↔ mark? previous current = o := by
  refine ⟨IsMark.mark?_eq, ?_⟩
  rintro rfl
  obtain ⟨o, h⟩ := exists_isMark previous current
  rwa [h.mark?_eq]

/-- The mark that is made for a binding is where the binding reappears, and there is none exactly
when it does not.  The search for a name passes over no place where the name stands alone. -/
theorem mark?_eq_iff_isMark (previous current : Text) :
    (∀ o, mark? previous current = o ↔ IsMark previous current o) ∧
      ∀ name before behind, isIdentifier name = true → before ++ name ++ behind = current →
        IsApart before behind → (before, behind) ∈ occurrences name [] current := by
  refine ⟨fun o => isMark_iff.symm, fun name before behind hname hparts hapart => ?_⟩
  have hne : name ≠ [] := by
    rintro rfl
    cases hname
  exact mem_occurrences hne (all_isIdentifierChar hname) hparts hapart

/-- The first two letters of the text are a place that overlaps the next one, and neither stands
alone. -/
theorem mark?_eq_iff_isMark_behind_overlap :
    IsMark "val aa : int = 3".toList "aaa aa".toList (some ⟨4, 6⟩) ∧
      isIdentifier "aa".toList = true ∧
        "aaa ".toList ++ "aa".toList ++ [] = "aaa aa".toList ∧ IsApart "aaa ".toList [] ∧
          ("aaa ".toList, []) ∈ occurrences "aa".toList [] "aaa aa".toList := by
  have hmark := mark?_eq_iff_isMark "val aa : int = 3".toList "aaa aa".toList
  have hapart : IsApart "aaa ".toList [] := standsAlone_iff.1 (by decide)
  exact ⟨(hmark.1 _).1 (by decide +kernel), by decide, rfl, hapart,
    hmark.2 _ _ _ (by decide) rfl hapart⟩

/-- A mark covers a part of the text that it is made for, and not an empty one. -/
theorem isIn_of_mark? {r : Span} (h : mark? previous current = some r) :
    r.isEmpty = false ∧ r.IsIn current := by
  have hisMark := isMark_iff.2 h
  cases hisMark with
  | head hhead hplace =>
      exact ⟨isEmpty_spanBehind _ hhead.ne_nil, Span.IsIn.of_cut? hplace.cut?_eq⟩
  | name _ _ hname _ hplace =>
      exact ⟨isEmpty_spanBehind _ hname.last.ne_nil, Span.IsIn.of_cut? hplace.cut?_eq⟩

/-! ### Marks inside longer identifiers -/

/-- No mark is cut out of a longer identifier, exactly when the first place of the head is not, if
there is one. -/
theorem isWhole_mark?_iff (previous current : Text) :
    (∀ r before w behind, mark? previous current = some r →
        r.cut? current = some (before, w, behind) → IsWhole before w behind) ↔
      ∀ head before behind, IsHead previous head →
        IsFirstPlace (fun _ _ => True) current head before behind →
          IsWhole before head behind := by
  constructor
  · intro h head before behind hhead hplace
    exact h _ before head behind (IsMark.head hhead hplace).mark?_eq hplace.cut?_eq
  · intro h r before w behind hmark hcut
    have hisMark := isMark_iff.2 hmark
    cases hisMark with
    | head hhead hplace =>
        rw [hplace.cut?_eq] at hcut
        cases hcut
        exact h _ _ _ hhead hplace
    | name _ _ _ _ hplace =>
        rw [hplace.cut?_eq] at hcut
        cases hcut
        exact hplace.allowed.isWhole w

/-- The head `type t` is marked in a declaration of `tree`. -/
theorem not_isWhole_mark?_type_tree :
    mark? "type t = int".toList "type tree = int".toList = some ⟨0, 6⟩ ∧
      (Span.mk 0 6).cut? "type tree = int".toList =
        some ([], "type t".toList, "ree = int".toList) ∧
          ¬ IsWhole [] "type t".toList "ree = int".toList := by
  refine ⟨by decide +kernel, by decide +kernel, fun h => ?_⟩
  have hr := h.stop 't' rfl (by decide) 'r' rfl
  exact absurd hr (by decide)

end TypeReport.Binding
