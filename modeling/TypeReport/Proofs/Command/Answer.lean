import TypeReport.Command.Answer
import TypeReport.Proofs.Report.Array
import TypeReport.Proofs.Run.Protocol

/-! # All or nothing

A run that fails has written whatever its events before that made it write.  But a run is
given up before its first event (`Options.output_run_of_error`), so a command either
succeeds and writes to the standard output alone, or fails and writes to the error output
alone (`Answer.IsAllOrNothing`).  A command line that means nothing has exit code two, and
an input that is refused has one (`Options.Refuses`); the format and the colours have no say
in either (`Answer.all_or_nothing`). -/

namespace TypeReport

theorem fromUTF8?_eq_some_iff {input : ByteArray} {s : String} :
    String.fromUTF8? input = some s ↔ s.toUTF8 = input := by
  constructor
  · intro h
    unfold String.fromUTF8? at h
    split at h
    case isTrue =>
      cases h
      rfl
    case isFalse => cases h
  · rintro rfl
    rw [String.fromUTF8?, String.toUTF8_eq_toByteArray, dif_pos s.isValidUTF8]
    rfl

/-! ### What is written -/

theorem Writer.step_start_ne_nil (w : Writer) (total : Nat) : (w.step (.start total)).1 ≠ [] := by
  cases w with
  | terminal t => simp [step, Terminal.write, Terminal.lines]
  | json fresh => simp [step]

theorem Writer.write_reported_ne_nil (w : Writer) (total failed : Nat) (reports : List Event) :
    w.write (Run.reported total failed reports).events ≠ [] := by
  rw [Run.events_reported, List.cons_append, write_cons]
  exact List.append_ne_nil_of_left_ne_nil (w.step_start_ne_nil total) _

namespace Options

theorem emptyReport_ne_nil (o : Options) : o.emptyReport ≠ [] := by
  unfold emptyReport
  cases o.format <;> simp

theorem run_cases (o : Options) (base input : Text) :
    (∃ e, o.run base input = .givenUp e) ∨ o.run base input = ⟨[], .ok .noErrors⟩ ∨
      ∃ total failed reports, o.run base input = .reported total failed reports :=
  Run.ofText_cases ..

/-- A run that is given up has written nothing. -/
theorem output_run_of_error {o : Options} {base input : Text} {e : Failure} (isTerminal : Bool)
    (h : (o.run base input).result = .error e) : o.output isTerminal (o.run base input) = [] := by
  rcases o.run_cases base input with ⟨e', hrun⟩ | hrun | ⟨total, failed, reports, hrun⟩
  · rw [hrun]
    rfl
  · rw [hrun] at h
    cases h
  · rw [hrun] at h
    cases h

theorem output_run_ne_nil {o : Options} {base input : Text} {outcome : Outcome} (isTerminal : Bool)
    (h : (o.run base input).result = .ok outcome) :
    o.output isTerminal (o.run base input) ≠ [] := by
  rcases o.run_cases base input with ⟨e, hrun⟩ | hrun | ⟨total, failed, reports, hrun⟩
  · rw [hrun] at h
    cases h
  · rw [hrun, output]
    exact List.append_ne_nil_of_right_ne_nil _ o.emptyReport_ne_nil
  · rw [hrun, output]
    exact List.append_ne_nil_of_left_ne_nil (Writer.write_reported_ne_nil _ total failed reports) _

variable {o o' : Options} {directory : Except Text Text}

theorem base_eq_error_iff {e : RunError} : o.base directory = .error e ↔
    o.relativePaths = true ∧ ∃ cause, directory = .error cause ∧ e = .directory cause := by
  unfold base
  cases o.relativePaths with
  | false => simp
  | true =>
      cases directory with
      | error cause => simp [Except.mapError, eq_comm]
      | ok path => simp [Except.mapError]

/-- What fails has written nothing, and what succeeds has written something. -/
theorem execute_cases (o : Options) (directory : Except Text Text) (isTerminal : Bool)
    (input : Text) :
    (∃ e, o.execute directory isTerminal input = ([], .error e)) ∨
      ∃ stdout outcome, stdout ≠ [] ∧
        o.execute directory isTerminal input = (stdout, .ok outcome) := by
  cases hbase : o.base directory with
  | error e =>
      refine .inl ⟨e, ?_⟩
      simp only [execute, hbase]
  | ok base =>
      cases hresult : (o.run base input).result with
      | error e =>
          refine .inl ⟨.parse e, ?_⟩
          simp only [execute, hbase, output_run_of_error isTerminal hresult, hresult]
          rfl
      | ok outcome =>
          refine .inr ⟨_, outcome, output_run_ne_nil isTerminal hresult, ?_⟩
          simp only [execute, hbase, hresult]
          rfl

/-! ### Inputs that are refused -/

/-- Why an input is refused: it is not a text, or the text is not a stream of blocks, or a block
cannot be read and none may be skipped, or else the directory that paths are made relative to is
not known. -/
inductive Refuses (o : Options) (directory : Except Text Text) (input : ByteArray) : Prop where
  | notText (h : ∀ s : String, s.toUTF8 ≠ input)
  | noDirectory (relative : o.relativePaths = true) {cause : Text} (h : directory = .error cause)
  | notSplit {s : String} (spells : s.toUTF8 = input) {e : Failure}
      (h : Block.split o.dialect s.toList = .error e)
  | block {s : String} (spells : s.toUTF8 = input) (policy : o.policy = .abort)
      {blocks : List Block} (split : Block.split o.dialect s.toList = .ok blocks) {b : Block}
      (mem : b ∈ blocks) {base : Text} (known : o.base directory = .ok base) {e : Failure}
      (h : Diagnostic.parse o.dialect (o.pathStyle base) b = .error e)

variable {input : ByteArray}

/-- Only what chooses blocks and paths matters to a refusal. -/
theorem Refuses.of_eq (h : o.Refuses directory input) (hpolicy : o.policy = o'.policy)
    (hdialect : o.dialect = o'.dialect) (hpaths : o.relativePaths = o'.relativePaths) :
    o'.Refuses directory input := by
  have hbase : o.base directory = o'.base directory := by rw [base, base, hpaths]
  have hstyle (base : Text) : o.pathStyle base = o'.pathStyle base := by
    rw [pathStyle, pathStyle, hpaths]
  cases h with
  | notText h => exact .notText h
  | noDirectory relative h =>
      rw [hpaths] at relative
      exact .noDirectory relative h
  | notSplit spells h =>
      rw [hdialect] at h
      exact .notSplit spells h
  | block spells policy split mem known h =>
      rw [hpolicy] at policy
      rw [hdialect] at split
      rw [hbase] at known
      rw [hdialect, hstyle] at h
      exact .block spells policy split mem known h

theorem exists_result_run_eq_error_iff {base input : Text} :
    (∃ e, (o.run base input).result = .error e) ↔
      (∃ e, Block.split o.dialect input = .error e) ∨
      o.policy = .abort ∧ ∃ blocks, Block.split o.dialect input = .ok blocks ∧
        ∃ b ∈ blocks, ∃ e, Diagnostic.parse o.dialect (o.pathStyle base) b = .error e :=
  Run.exists_result_eq_error_iff

/-- An input that is a text is refused if what is done with the text fails. -/
theorem refuses_iff {s : String} (h : s.toUTF8 = input) (isTerminal : Bool) :
    o.Refuses directory input ↔ ∃ e, (o.execute directory isTerminal s.toList).2 = .error e := by
  have hs {s' : String} (hs' : s'.toUTF8 = input) : s' = s := by
    have hsome := fromUTF8?_eq_some_iff.2 hs'
    rw [fromUTF8?_eq_some_iff.2 h] at hsome
    cases hsome
    rfl
  cases hbase : o.base directory with
  | error e =>
      obtain ⟨hrelative, cause, hdirectory, -⟩ := base_eq_error_iff.1 hbase
      refine iff_of_true (.noDirectory hrelative hdirectory) ⟨e, ?_⟩
      simp only [execute, hbase]
  | ok base =>
      have hresult : (∃ e, (o.execute directory isTerminal s.toList).2 = .error e) ↔
          ∃ e, (o.run base s.toList).result = .error e := by
        simp only [execute, hbase]
        cases (o.run base s.toList).result with
        | error e => exact iff_of_true ⟨.parse e, rfl⟩ ⟨e, rfl⟩
        | ok outcome => simp [Except.mapError]
      rw [hresult, exists_result_run_eq_error_iff]
      constructor
      · rintro (hno | ⟨hrelative, hdirectory⟩ | ⟨hs', he⟩ | ⟨hs', hpolicy, hsplit, hb, hknown, he⟩)
        · exact absurd h (hno s)
        · rw [base_eq_error_iff.2 ⟨hrelative, _, hdirectory, rfl⟩] at hbase
          cases hbase
        · rw [hs hs'] at he
          exact .inl ⟨_, he⟩
        · rw [hs hs'] at hsplit
          rw [hbase] at hknown
          cases hknown
          exact .inr ⟨hpolicy, _, hsplit, _, hb, _, he⟩
      · rintro (⟨e, he⟩ | ⟨hpolicy, blocks, hsplit, b, hb, e, he⟩)
        · exact .notSplit h he
        · exact .block h hpolicy hsplit hb hbase he

end Options

/-! ### Answers -/

namespace Answer

/-- Whether an answer keeps to one of the two outputs: the standard output for success, the error
output for a fault. -/
structure IsAllOrNothing (a : Answer) : Prop where
  success : a.exitCode = 0 → a.stderr = [] ∧ a.stdout ≠ []
  failure : a.exitCode ≠ 0 → a.stdout = [] ∧ a.stderr ≠ []

theorem isAllOrNothing_success {stdout : Text} (h : stdout ≠ []) :
    IsAllOrNothing (Answer.success stdout) :=
  ⟨fun _ => ⟨rfl, h⟩, fun hcode => absurd rfl hcode⟩

theorem isAllOrNothing_failure {exitCode : Nat} (h : exitCode ≠ 0) (message : Text) :
    IsAllOrNothing (Answer.failure exitCode [] message) :=
  ⟨fun hcode => absurd hcode h, fun _ => ⟨rfl, by simp [Answer.failure]⟩⟩

theorem helpText_ne_nil : helpText ≠ [] := by
  unfold helpText
  -- The whole text is too long to be evaluated, but its last piece is not.
  rw [String.toList_append]
  exact List.append_ne_nil_of_right_ne_nil _ (by decide +kernel)

/-- An input is answered with success or refused, and then nothing is written before the refusal. -/
theorem ofInput_cases (o : Options) (directory : Except Text Text) (isTerminal : Bool)
    (input : ByteArray) :
    o.Refuses directory input ∧
      (∃ message, ofInput o directory isTerminal input = failure 1 [] message) ∨
    ¬o.Refuses directory input ∧
      ∃ stdout, stdout ≠ [] ∧ ofInput o directory isTerminal input = success stdout := by
  cases hs : String.fromUTF8? input with
  | none =>
      refine .inl ⟨.notText fun s h => ?_, notText, ?_⟩
      · rw [fromUTF8?_eq_some_iff.2 h] at hs
        cases hs
      · rw [ofInput, hs]
  | some s =>
      rw [Options.refuses_iff (fromUTF8?_eq_some_iff.1 hs) isTerminal, ofInput, hs]
      rcases o.execute_cases directory isTerminal s.toList with
        ⟨e, hfails⟩ | ⟨stdout, outcome, hstdout, hsucceeds⟩
      · simp only [hfails]
        exact .inl ⟨⟨e, rfl⟩, e.message, rfl⟩
      · simp only [hsucceeds]
        exact .inr ⟨by simp, stdout, hstdout, rfl⟩

theorem exitCode_ofInput_eq_one_iff {o : Options} {directory : Except Text Text}
    {isTerminal : Bool} {input : ByteArray} :
    (ofInput o directory isTerminal input).exitCode = 1 ↔ o.Refuses directory input := by
  rcases ofInput_cases o directory isTerminal input with
    ⟨hrefuses, message, hanswer⟩ | ⟨hrefuses, stdout, -, hanswer⟩
  · rw [hanswer]
    exact iff_of_true rfl hrefuses
  · rw [hanswer]
    exact iff_of_false Nat.zero_ne_one hrefuses

theorem exitCode_ofInput_eq_zero_iff {o : Options} {directory : Except Text Text}
    {isTerminal : Bool} {input : ByteArray} :
    (ofInput o directory isTerminal input).exitCode = 0 ↔ ¬o.Refuses directory input := by
  rcases ofInput_cases o directory isTerminal input with
    ⟨hrefuses, message, hanswer⟩ | ⟨hrefuses, stdout, -, hanswer⟩
  · rw [hanswer]
    exact iff_of_false Nat.one_ne_zero (not_not_intro hrefuses)
  · rw [hanswer]
    exact iff_of_true rfl hrefuses

theorem exitCode_ofInput_le_one (o : Options) (directory : Except Text Text) (isTerminal : Bool)
    (input : ByteArray) : (ofInput o directory isTerminal input).exitCode ≤ 1 := by
  by_cases hrefuses : o.Refuses directory input
  · exact (exitCode_ofInput_eq_one_iff.2 hrefuses).le
  · rw [exitCode_ofInput_eq_zero_iff.2 hrefuses]
    exact Nat.zero_le 1

theorem exitCode_ofInput_congr {o o' : Options} (hpolicy : o.policy = o'.policy)
    (hdialect : o.dialect = o'.dialect) (hpaths : o.relativePaths = o'.relativePaths)
    (directory : Except Text Text) (isTerminal isTerminal' : Bool) (input : ByteArray) :
    (ofInput o directory isTerminal input).exitCode =
      (ofInput o' directory isTerminal' input).exitCode := by
  by_cases hrefuses : o.Refuses directory input
  · have hrefuses' := hrefuses.of_eq hpolicy hdialect hpaths
    rw [exitCode_ofInput_eq_one_iff.2 hrefuses, exitCode_ofInput_eq_one_iff.2 hrefuses']
  · have hrefuses' : ¬o'.Refuses directory input := fun h =>
      hrefuses (h.of_eq hpolicy.symm hdialect.symm hpaths.symm)
    rw [exitCode_ofInput_eq_zero_iff.2 hrefuses, exitCode_ofInput_eq_zero_iff.2 hrefuses']

theorem isAllOrNothing_ofInput (o : Options) (directory : Except Text Text) (isTerminal : Bool)
    (input : ByteArray) : (ofInput o directory isTerminal input).IsAllOrNothing := by
  rcases ofInput_cases o directory isTerminal input with
    ⟨-, message, hanswer⟩ | ⟨-, stdout, hstdout, hanswer⟩
  · rw [hanswer]
    exact isAllOrNothing_failure Nat.one_ne_zero message
  · rw [hanswer]
    exact isAllOrNothing_success hstdout

theorem ofArguments_of_run {arguments : List Text} {o : Options}
    (h : Request.ofArguments arguments = .ok (.run o)) (directory : Except Text Text)
    (isTerminal : Bool) (input : ByteArray) :
    ofArguments directory isTerminal arguments input = ofInput o directory isTerminal input := by
  rw [ofArguments, h]

theorem isAllOrNothing_ofArguments (directory : Except Text Text) (isTerminal : Bool)
    (arguments : List Text) (input : ByteArray) :
    (ofArguments directory isTerminal arguments input).IsAllOrNothing := by
  cases h : Request.ofArguments arguments with
  | error e =>
      rw [ofArguments, h]
      exact isAllOrNothing_failure (by decide) _
  | ok request =>
      cases request with
      | run o =>
          rw [ofArguments_of_run h]
          exact isAllOrNothing_ofInput o directory isTerminal input
      | help =>
          rw [ofArguments, h]
          exact isAllOrNothing_success helpText_ne_nil
      | version =>
          rw [ofArguments, h]
          exact isAllOrNothing_success (by decide)

theorem exitCode_ofArguments_eq_two_iff {directory : Except Text Text} {isTerminal : Bool}
    {arguments : List Text} {input : ByteArray} :
    (ofArguments directory isTerminal arguments input).exitCode = 2 ↔
      ∃ e, Request.ofArguments arguments = .error e := by
  cases h : Request.ofArguments arguments with
  | error e =>
      rw [ofArguments, h]
      exact iff_of_true rfl ⟨e, rfl⟩
  | ok request =>
      refine iff_of_false ?_ (by simp)
      cases request with
      | run o =>
          rw [ofArguments_of_run h]
          have hle := exitCode_ofInput_le_one o directory isTerminal input
          omega
      | help =>
          rw [ofArguments, h]
          exact Nat.zero_ne_add_one 1
      | version =>
          rw [ofArguments, h]
          exact Nat.zero_ne_add_one 1

/-- What the exit code of a command says, and which of the outputs it comes with. -/
theorem all_or_nothing (directory : Except Text Text) (isTerminal : Bool) (arguments : List Text)
    (input : ByteArray) :
    ((ofArguments directory isTerminal arguments input).exitCode = 2 ↔
      ∃ e, Request.ofArguments arguments = .error e) ∧
    (Request.ofArguments arguments = .ok .help →
      ofArguments directory isTerminal arguments input = ⟨0, helpText, []⟩) ∧
    (Request.ofArguments arguments = .ok .version →
      ofArguments directory isTerminal arguments input = ⟨0, versionText, []⟩) ∧
    (∀ o, Request.ofArguments arguments = .ok (.run o) →
      ((ofArguments directory isTerminal arguments input).exitCode = 1 ↔
        o.Refuses directory input) ∧
      ((ofArguments directory isTerminal arguments input).exitCode = 0 ↔
        ¬o.Refuses directory input)) ∧
    (ofArguments directory isTerminal arguments input).IsAllOrNothing ∧
    ∀ isTerminal' arguments' o o', Request.ofArguments arguments = .ok (.run o) →
      Request.ofArguments arguments' = .ok (.run o') → o.policy = o'.policy →
      o.dialect = o'.dialect → o.relativePaths = o'.relativePaths →
      (ofArguments directory isTerminal arguments input).exitCode =
        (ofArguments directory isTerminal' arguments' input).exitCode := by
  refine ⟨exitCode_ofArguments_eq_two_iff, fun h => ?_, fun h => ?_, fun o h => ?_,
    isAllOrNothing_ofArguments .., ?_⟩
  · rw [ofArguments, h]
    rfl
  · rw [ofArguments, h]
    rfl
  · rw [ofArguments_of_run h]
    exact ⟨exitCode_ofInput_eq_one_iff, exitCode_ofInput_eq_zero_iff⟩
  · intro isTerminal' arguments' o o' h h' hpolicy hdialect hpaths
    rw [ofArguments_of_run h, ofArguments_of_run h']
    exact exitCode_ofInput_congr hpolicy hdialect hpaths ..

/-- What is no stream of blocks is refused in either format, and nothing is read in a directory that
is not known, but neither matters for help or for the version. -/
theorem all_or_nothing_stray :
    (ofCommand [] true [] "x".toUTF8).exitCode = 1 ∧
    (ofCommand [] true [] "x".toUTF8).exitCode =
      (ofCommand [] false ["--format=json".toList] "x".toUTF8).exitCode ∧
    (ofArguments (.error "gone".toList) true [] "".toUTF8).exitCode = 1 ∧
    ofCommand [] true ["-h".toList] "x".toUTF8 = ⟨0, helpText, []⟩ ∧
    ofCommand [] true ["-V".toList] "x".toUTF8 = ⟨0, versionText, []⟩ := by
  have hplain : Request.ofArguments [] = .ok (.run {}) := by rfl
  have hjson : Request.ofArguments ["--format=json".toList] = .ok (.run { format := .json }) := by
    rfl
  have hsplit : Block.split .ocaml4 "x".toList = .error (.malformedStart 1 ['x']) := by rfl
  obtain ⟨-, -, -, hrun, -, hsame⟩ := all_or_nothing (.ok []) true [] "x".toUTF8
  obtain ⟨-, -, -, hgone, -⟩ := all_or_nothing (.error "gone".toList) true [] "".toUTF8
  obtain ⟨-, hhelp, -⟩ := all_or_nothing (.ok []) true ["-h".toList] "x".toUTF8
  obtain ⟨-, -, hversion, -⟩ := all_or_nothing (.ok []) true ["-V".toList] "x".toUTF8
  exact ⟨(hrun _ hplain).1.2 (.notSplit rfl hsplit), hsame _ _ _ _ hplain hjson rfl rfl rfl,
    (hgone _ hplain).1.2 (.noDirectory rfl rfl), hhelp (by rfl), hversion (by rfl)⟩

end Answer
end TypeReport
