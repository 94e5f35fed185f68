import TypeReport.Command.Options
import TypeReport.Proofs.MapM
import TypeReport.Proofs.Text.Phrases

/-! # Settings

What an argument may say is written down in tables, apart from how arguments are read: the
values that can be given by name (`Setting.assignments`) and the switches
(`Setting.switches`).  They tell the arguments that make a setting (`Setting.Writes`) from
those that have a fault (`Setting.IsFault`), and every argument is one or the other
(`Setting.ofArgument_cases`).

A setting has a kind, and applying one leaves the other kinds as they are
(`Setting.setting_apply`).  So settings of different kinds may change places
(`Setting.apply_comm`), and of each kind the last setting is in force
(`Setting.setting_foldl_of_last`), which is the one that the last argument of this kind makes
(`Setting.isChosen_iff`). -/

namespace TypeReport

namespace Setting

/-! ### Arguments -/

/-- What can be given a value by name, behind an opening, and what is wrong with any other name. -/
structure Assignment where
  opening : Text
  values : List (Text × Setting)
  fault : Text → UsageError

/-- Everything that can be given a value by name. -/
def assignments : List Assignment :=
  [⟨"--format=".toList, [("terminal".toList, format .terminal), ("json".toList, format .json)],
      .unknownFormat⟩,
    ⟨"--color=".toList,
      [("auto".toList, colour .auto), ("always".toList, colour .always),
        ("never".toList, colour .never)],
      .unknownColour⟩,
    ⟨"--dialect=".toList, Dialect.known.map fun d => (d.name, dialect d), .unknownDialect⟩]

/-- The arguments that make a setting and have no value. -/
def switches : List (Text × Setting) :=
  [("--keep-going".toList, policy .isolate), ("-k".toList, policy .isolate),
    ("--no-relative-paths".toList, relativePaths false)]

/-- Whether an argument makes a setting, by the name of a value or as a switch. -/
inductive Writes : Text → Setting → Prop where
  | value {v : Assignment} {name : Text} {x : Setting} (assigns : v ∈ assignments)
      (named : v.values.lookup name = some x) : Writes (v.opening ++ name) x
  | switch {a : Text} {x : Setting} (listed : switches.lookup a = some x) : Writes a x

/-- What is wrong with an argument that makes no setting: it gives a name that no value has, or it
gives none. -/
inductive IsFault : Text → UsageError → Prop where
  | unknown {v : Assignment} {name : Text} (assigns : v ∈ assignments)
      (unnamed : v.values.lookup name = none) : IsFault (v.opening ++ name) (v.fault name)
  | unexpected {a : Text} (bare : ∀ v ∈ assignments, ¬v.opening <+: a)
      (unlisted : switches.lookup a = none) : IsFault a (.unexpectedArgument a)

section

variable {a name : Text} {v : Assignment} {x y : Setting} {e : UsageError}

theorem lookup_cons_eq_ite (s w : Text) (x : Setting) (table : List (Text × Setting)) :
    ((w, x) :: table).lookup s = if s = w then some x else table.lookup s := by
  rw [List.lookup_cons]
  split
  case h_1 h => rw [if_pos (beq_iff_eq.1 h)]
  case h_2 h => rw [if_neg (beq_eq_false_iff_ne.1 h)]

theorem lookup_formats (name : Text) : (Format.ofName? name).map format =
    [("terminal".toList, format .terminal), ("json".toList, format .json)].lookup name := by
  unfold Format.ofName?
  simp only [lookup_cons_eq_ite, List.lookup_nil, apply_ite (Option.map format)]
  rfl

theorem lookup_colours (name : Text) : (ColourMode.ofName? name).map colour =
    [("auto".toList, colour .auto), ("always".toList, colour .always),
      ("never".toList, colour .never)].lookup name := by
  unfold ColourMode.ofName?
  simp only [lookup_cons_eq_ite, List.lookup_nil, apply_ite (Option.map colour)]
  rfl

theorem lookup_dialects (name : Text) : (Dialect.ofName? name).map dialect =
    (Dialect.known.map fun d => (d.name, dialect d)).lookup name := by
  unfold Dialect.ofName?
  induction Dialect.known with
  | nil => rfl
  | cons d ds ih =>
      rw [List.map_cons, lookup_cons_eq_ite, ← ih, List.find?_cons]
      by_cases hname : d.name = name
      · simp [hname]
      · simp [hname, Ne.symm hname]

theorem ofArgument_value (h : v ∈ assignments) (name : Text) :
    ofArgument (v.opening ++ name) = require (v.fault name) (v.values.lookup name) := by
  simp only [assignments, List.mem_cons, List.not_mem_nil, or_false] at h
  rcases h with rfl | rfl | rfl
  · rw [ofArgument, Text.after?_append, ← lookup_formats]
  · rw [ofArgument, Text.after?_append_eq_none (by decide) (by decide), Text.after?_append,
      ← lookup_colours]
  · rw [ofArgument, Text.after?_append_eq_none (by decide) (by decide),
      Text.after?_append_eq_none (by decide) (by decide), Text.after?_append, ← lookup_dialects]

theorem ofArgument_bare (h : ∀ v ∈ assignments, ¬v.opening <+: a) :
    ofArgument a = require (.unexpectedArgument a) (switches.lookup a) := by
  have hafter : ∀ v ∈ assignments, a.after? v.opening = none := fun v hv =>
    Text.after?_eq_none_iff.2 (h v hv)
  simp only [assignments, List.forall_mem_cons] at hafter
  obtain ⟨hformat, hcolour, hdialect, -⟩ := hafter
  rw [ofArgument, hformat, hcolour, hdialect]
  simp only [switches, lookup_cons_eq_ite, List.lookup_nil]
  by_cases hkeep : a = "--keep-going".toList
  · rw [hkeep]
    rfl
  by_cases hk : a = "-k".toList
  · rw [hk]
    rfl
  by_cases hpaths : a = "--no-relative-paths".toList
  · rw [hpaths]
    rfl
  · simp only [hkeep, hk, hpaths, or_self, if_false]
    rfl

theorem bare_of_switch (h : switches.lookup a = some x) : ∀ v ∈ assignments, ¬v.opening <+: a := by
  obtain ⟨before, behind, hsplit, -⟩ := List.lookup_eq_some_iff.1 h
  have hmem : (a, x) ∈ switches := by
    rw [hsplit]
    simp
  have hbare : ∀ p ∈ switches, ∀ v ∈ assignments, ¬v.opening <+: p.1 := by decide
  exact hbare _ hmem

/-- Every argument makes a setting or has a fault, and is read as what it is. -/
theorem ofArgument_cases (a : Text) :
    (∃ x, Writes a x ∧ ofArgument a = .ok x) ∨ ∃ e, IsFault a e ∧ ofArgument a = .error e := by
  by_cases hbare : ∀ v ∈ assignments, ¬v.opening <+: a
  · rw [ofArgument_bare hbare]
    cases hlisted : switches.lookup a with
    | some x => exact .inl ⟨x, .switch hlisted, rfl⟩
    | none => exact .inr ⟨_, .unexpected hbare hlisted, rfl⟩
  · push Not at hbare
    obtain ⟨v, hv, name, rfl⟩ := hbare
    rw [ofArgument_value hv]
    cases hnamed : v.values.lookup name with
    | some x => exact .inl ⟨x, .value hv hnamed, rfl⟩
    | none => exact .inr ⟨_, .unknown hv hnamed, rfl⟩

theorem ofArgument_eq_ok_iff : ofArgument a = .ok x ↔ Writes a x := by
  constructor
  · intro h
    rcases ofArgument_cases a with ⟨y, hy, hread⟩ | ⟨e, -, hread⟩
    · rw [h] at hread
      cases hread
      exact hy
    · rw [h] at hread
      cases hread
  · intro h
    cases h with
    | value hv hnamed =>
        rw [ofArgument_value hv, hnamed]
        rfl
    | switch hlisted =>
        rw [ofArgument_bare (bare_of_switch hlisted), hlisted]
        rfl

theorem ofArgument_eq_error_iff : ofArgument a = .error e ↔ IsFault a e := by
  constructor
  · intro h
    rcases ofArgument_cases a with ⟨x, -, hread⟩ | ⟨e', he', hread⟩
    · rw [h] at hread
      cases hread
    · rw [h] at hread
      cases hread
      exact he'
  · intro h
    cases h with
    | unknown hv hnamed =>
        rw [ofArgument_value hv, hnamed]
        rfl
    | unexpected hbare hlisted =>
        rw [ofArgument_bare hbare, hlisted]
        rfl

theorem Writes.unique (h : Writes a x) (h' : Writes a y) : x = y := by
  rw [← ofArgument_eq_ok_iff] at h h'
  rw [h] at h'
  exact Except.ok.inj h'

end

/-! ### Kinds of settings -/

/-- What a setting is about. -/
inductive Kind where
  | format
  | colour
  | dialect
  | policy
  | relativePaths
deriving DecidableEq

def kind : Setting → Kind
  | format _ => .format
  | colour _ => .colour
  | dialect _ => .dialect
  | policy _ => .policy
  | relativePaths _ => .relativePaths

end Setting

/-- The setting of a kind that is in force. -/
def Options.setting (o : Options) : Setting.Kind → Setting
  | .format => .format o.format
  | .colour => .colour o.colour
  | .dialect => .dialect o.dialect
  | .policy => .policy o.policy
  | .relativePaths => .relativePaths o.relativePaths

theorem Options.ext_setting {o o' : Options} (h : ∀ k, o.setting k = o'.setting k) : o = o' := by
  have hformat := Setting.format.inj (h .format)
  have hcolour := Setting.colour.inj (h .colour)
  have hdialect := Setting.dialect.inj (h .dialect)
  have hpolicy := Setting.policy.inj (h .policy)
  have hpaths := Setting.relativePaths.inj (h .relativePaths)
  cases o
  cases o'
  simp_all

namespace Setting

variable {x y : Setting} {k : Kind} {xs ys zs : List Setting}

theorem setting_apply (o : Options) (x : Setting) (k : Kind) :
    (apply o x).setting k = if x.kind = k then x else o.setting k := by
  cases x <;> cases k <;> rfl

theorem apply_comm (h : x.kind ≠ y.kind) (o : Options) :
    apply (apply o x) y = apply (apply o y) x := by
  apply Options.ext_setting
  intro k
  simp only [setting_apply]
  by_cases hx : x.kind = k
  · have hy : y.kind ≠ k := fun hy => h (hx.trans hy.symm)
    simp only [hx, hy, if_true, if_false]
  · simp only [hx, if_false]

theorem setting_foldl_of_ne (h : ∀ x ∈ xs, x.kind ≠ k) (o : Options) :
    (xs.foldl apply o).setting k = o.setting k := by
  induction xs generalizing o with
  | nil => rfl
  | cons x xs ih =>
      rw [List.forall_mem_cons] at h
      rw [List.foldl_cons, ih h.2, setting_apply, if_neg h.1]

/-- The last setting of a kind is in force, whatever has been in force before. -/
theorem setting_foldl_of_last (hx : x.kind = k) (hzs : ∀ z ∈ zs, z.kind ≠ k) (o : Options) :
    ((ys ++ x :: zs).foldl apply o).setting k = x := by
  rw [List.foldl_append, List.foldl_cons, setting_foldl_of_ne hzs, setting_apply, if_pos hx]

theorem exists_last (xs : List Setting) (k : Kind) :
    (∀ x ∈ xs, x.kind ≠ k) ∨
      ∃ ys x zs, xs = ys ++ x :: zs ∧ x.kind = k ∧ ∀ z ∈ zs, z.kind ≠ k := by
  induction xs with
  | nil => exact .inl (by simp)
  | cons x xs ih =>
      rcases ih with hnone | ⟨ys, y, zs, rfl, hy, hzs⟩
      · by_cases hx : x.kind = k
        · exact .inr ⟨[], x, xs, rfl, hx, hnone⟩
        · exact .inl (List.forall_mem_cons.2 ⟨hx, hnone⟩)
      · exact .inr ⟨x :: ys, y, zs, rfl, hy, hzs⟩

theorem foldl_append_self (xs : List Setting) (o : Options) :
    (xs ++ xs).foldl apply o = xs.foldl apply o := by
  apply Options.ext_setting
  intro k
  rcases exists_last xs k with hnone | ⟨ys, x, zs, hxs, hx, hzs⟩
  · rw [List.foldl_append, setting_foldl_of_ne hnone]
  · -- The last setting of the kind stands in the second copy.
    have htwice : xs ++ xs = (xs ++ ys) ++ x :: zs := by
      rw [List.append_assoc, ← hxs]
    rw [htwice, setting_foldl_of_last hx hzs, hxs, setting_foldl_of_last hx hzs]

/-! ### The last argument of a kind -/

/-- The setting of a kind that the arguments choose: that of the last argument that makes one of
this kind, or the default. -/
inductive IsChosen (arguments : List Text) (k : Kind) : Setting → Prop where
  | last {before behind : List Text} {a : Text} {x : Setting}
      (split : arguments = before ++ a :: behind) (writes : Writes a x) (kind : x.kind = k)
      (others : ∀ b ∈ behind, ∀ y, Writes b y → y.kind ≠ k) : IsChosen arguments k x
  | default (others : ∀ b ∈ arguments, ∀ y, Writes b y → y.kind ≠ k) :
      IsChosen arguments k (({} : Options).setting k)

section

variable {arguments : List Text}

theorem kind_ne_of_forall₂ (h : List.Forall₂ Writes arguments xs) :
    (∀ x ∈ xs, x.kind ≠ k) ↔ ∀ a ∈ arguments, ∀ x, Writes a x → x.kind ≠ k := by
  constructor
  · intro hxs a ha x hx
    obtain ⟨y, hy, hwrites⟩ := exists_of_mem_right h.flip ha
    rw [hx.unique hwrites]
    exact hxs y hy
  · intro harguments x hx
    obtain ⟨a, ha, hwrites⟩ := exists_of_mem_right h hx
    exact harguments a ha x hwrites

/-- The settings that arguments make, one after the other, leave the chosen ones in force. -/
theorem isChosen_iff (h : List.Forall₂ Writes arguments xs) :
    IsChosen arguments k x ↔ (xs.foldl apply {}).setting k = x := by
  constructor
  · intro hx
    cases hx with
    | last hsplit hwrites hkind hothers =>
        subst hsplit
        obtain ⟨ys, y, zs, rfl, hy, hzs⟩ := exists_of_append_cons h
        rw [← hwrites.unique hy]
        exact setting_foldl_of_last hkind ((kind_ne_of_forall₂ hzs).2 hothers) {}
    | default hothers => exact setting_foldl_of_ne ((kind_ne_of_forall₂ h).2 hothers) {}
  · rintro rfl
    rcases exists_last xs k with hnone | ⟨ys, x, zs, rfl, hx, hzs⟩
    · rw [setting_foldl_of_ne hnone]
      exact .default ((kind_ne_of_forall₂ h).1 hnone)
    · obtain ⟨before, a, behind, hsplit, ha, hbehind⟩ := exists_of_append_cons h.flip
      rw [setting_foldl_of_last hx hzs]
      exact .last hsplit ha hx ((kind_ne_of_forall₂ hbehind.flip).1 hzs)

end

end Setting
end TypeReport
