import TypeReport.Proofs.Report.Array
import TypeReport.Proofs.Run.Protocol

/-! # Writers that are used again

A terminal has no memory, so a second run into it is written as the first one is.  The JSON
writer remembers that it has written a record, and no event makes it forget.  So the array
of a second run starts with the comma that separates records (`exists_write_json`), and is
no JSON (`not_document_comma`).  Of the two kinds of writers only the terminal writes each
run as if it were the first (`write_append_eq_iff`). -/

namespace TypeReport

namespace Json

/-! ### Arrays that start with a comma -/

theorem readValue?_comma (fuel : Nat) (s : Text) : readValue? fuel (',' :: s) = none := by
  cases fuel with
  | zero => rfl
  | succ fuel =>
      rw [readValue?, skipSpace_cons rfl]
      rfl

theorem readItems?_comma (fuel : Nat) (s : Text) : readItems? fuel (',' :: s) = none := by
  cases fuel with
  | zero => rfl
  | succ fuel =>
      rw [readItems?, readValue?_comma]
      rfl

theorem readValue?_bracket_comma {gap : Text} (hgap : IsGap gap) (fuel : Nat) (s : Text) :
    readValue? fuel ('[' :: gap ++ ',' :: s) = none := by
  cases fuel with
  | zero => rfl
  | succ fuel =>
      have hcomma : isSpace ',' = false := rfl
      rw [List.cons_append, readValue?, skipSpace_cons rfl]
      simp only [skipSpace_append_cons hgap hcomma]
      show (readItems? fuel (',' :: s)).bind _ = none
      rw [readItems?_comma]
      rfl

theorem not_document_comma (s : Text) (v : Json) :
    ¬ Document v ("[\n".toList ++ ",\n".toList ++ s) := by
  intro h
  have hgap : IsGap ['\n'] := isGap_cons rfl isGap_nil
  have hread := read?_of_document h
  have htext : "[\n".toList ++ ",\n".toList ++ s = '[' :: ['\n'] ++ ',' :: '\n' :: s := rfl
  rw [htext, read?, readValue?_bracket_comma hgap] at hread
  cases hread

end Json

/-- A run that has reported blocks keeps to the protocol. -/
theorem Run.protocol_of_result {d : Dialect} {style : PathStyle} {policy : Policy} {input : Text}
    {total failed : Nat} (h : (ofText d style policy input).result = .ok (.rendered total failed)) :
    Protocol total failed (ofText d style policy input).events ∧ 0 < total := by
  cases hsplit : Block.split d input with
  | error e =>
      rw [ofText_of_split_error hsplit] at h
      cases h
  | ok blocks =>
      by_cases hne : blocks = []
      · rw [hne] at hsplit
        rw [ofText_of_split_nil hsplit] at h
        cases h
      · rcases ofText_eq_reported style hsplit hne policy with ⟨e, hrun⟩ | ⟨hrun, -⟩
        · rw [hrun] at h
          cases h
        · rw [hrun] at h
          cases h
          rw [hrun]
          exact ⟨protocol_reported hsplit, List.length_pos_iff.2 hne⟩

namespace Writer

/-- Whether a writer has not written a record yet. -/
def IsFresh : Writer → Prop
  | terminal _ => True
  | json fresh => fresh = true

/-! ### The body of a run -/

/-- Between its start and its finish a run has the record of each block, and nothing else that the
JSON writer takes note of. -/
theorem isInner_of_takesUp {total k failed : Nat} {body : List Event}
    (h : Run.TakesUp total k failed body) : ∀ e ∈ body, e.isInner = true := by
  induction h with
  | done => simp
  | read e _ ih =>
      simp only [List.forall_mem_cons]
      exact ⟨rfl, rfl, ih⟩
  | skip s _ _ ih =>
      simp only [List.forall_mem_cons]
      exact ⟨rfl, rfl, ih⟩

theorem length_records_of_takesUp {total k failed : Nat} {body : List Event}
    (h : Run.TakesUp total k failed body) :
    k + (body.filterMap Event.record?).length = total := by
  induction h with
  | done => rfl
  | @read k _ events e _ ih =>
      have hrecords : (Event.progress total (k + 1) :: .diagnostic k e :: events).filterMap
          Event.record? = Record.ofDiagnostic k e :: events.filterMap Event.record? := rfl
      rw [hrecords, List.length_cons]
      omega
  | @skip k _ events s _ _ ih =>
      have hrecords : (Event.progress total (k + 1) :: .skipped s :: events).filterMap
          Event.record? = Record.ofSkipped s :: events.filterMap Event.record? := rfl
      rw [hrecords, List.length_cons]
      omega

/-! ### Two runs -/

theorem afterEvents_append (w : Writer) (es fs : List Event) :
    w.afterEvents (es ++ fs) = (w.afterEvents es).afterEvents fs := List.foldl_append

theorem afterEvents_terminal (t : Terminal) (es : List Event) :
    (terminal t).afterEvents es = terminal t := by
  induction es with
  | nil => rfl
  | cons e es ih => exact ih

/-- Once a record has been written, the JSON writer does not forget it. -/
theorem afterEvents_json_false (es : List Event) : (json false).afterEvents es = json false := by
  induction es with
  | nil => rfl
  | cons e es ih => cases e <;> exact ih

theorem afterEvents_json_of_record {es : List Event} (h : es.filterMap Event.record? ≠ [])
    (fresh : Bool) : (json fresh).afterEvents es = json false := by
  induction es generalizing fresh with
  | nil => exact absurd rfl h
  | cons e es ih =>
      cases e with
      | diagnostic index e => exact afterEvents_json_false es
      | skipped s => exact afterEvents_json_false es
      | _ => exact ih h fresh

/-- The array of a run is written the same whether it is the first or not, but for a comma. -/
theorem exists_write_json {total failed : Nat} {events : List Event}
    (h : Run.Protocol total failed events) (hpos : 0 < total) :
    ∃ rest, ∀ fresh, (json fresh).write events =
      "[\n".toList ++ (if fresh then [] else ",\n".toList) ++ rest := by
  obtain ⟨body, hbody, rfl⟩ := h
  have hinner := isInner_of_takesUp hbody
  have hlength := length_records_of_takesUp hbody
  obtain ⟨r, rs, hrecords⟩ : ∃ r rs, body.filterMap Event.record? = r :: rs := by
    refine List.exists_cons_of_length_pos ?_
    omega
  have hafter (fresh : Bool) : (json fresh).afterEvents body = json false := by
    apply afterEvents_json_of_record
    rw [hrecords]
    exact List.cons_ne_nil r rs
  refine ⟨Record.print r ++ (rs.map Record.print).flatMap (",\n".toList ++ ·) ++ "\n]\n".toList,
    fun fresh => ?_⟩
  have hstart : (json fresh).write (.start total :: body ++ [.finish total failed, .flush]) =
      "[\n".toList ++ (json fresh).write (body ++ [.finish total failed, .flush]) := rfl
  have hfinish : (json false).write [.finish total failed, .flush] = "\n]\n".toList := rfl
  rw [hstart, write_append, hafter, hfinish]
  cases fresh with
  | true =>
      rw [write_json_true hinner, hrecords, List.map_cons, intercalate_cons]
      simp
  | false =>
      rw [write_json_false hinner, hrecords, List.map_cons, List.flatMap_cons]
      simp

/-- A run over at least one block leaves the JSON writer with a record written. -/
theorem afterEvents_json_of_protocol {total failed : Nat} {events : List Event}
    (h : Run.Protocol total failed events) (hpos : 0 < total) (fresh : Bool) :
    (json fresh).afterEvents events = json false := by
  obtain ⟨body, hbody, rfl⟩ := h
  have hlength := length_records_of_takesUp hbody
  rw [List.cons_append]
  have hstart : (json fresh).afterEvents
      (.start total :: (body ++ [.finish total failed, .flush])) =
        (json fresh).afterEvents (body ++ [.finish total failed, .flush]) := rfl
  rw [hstart, afterEvents_append, afterEvents_json_of_record, afterEvents_json_false]
  intro hnil
  rw [hnil, List.length_nil] at hlength
  omega

theorem exists_document_of_protocol {total failed : Nat} {events : List Event}
    (h : Run.Protocol total failed events) :
    ∃ items, Json.Document (.array items) ((json true).write events) := by
  obtain ⟨body, hbody, rfl⟩ := h
  have hflush : (json true).write (.start total :: body ++ [.finish total failed, .flush]) =
      (json true).write (.start total :: body ++ [.finish total failed]) := by
    have hsplit : .start total :: body ++ [.finish total failed, .flush] =
        (.start total :: body ++ [.finish total failed]) ++ [.flush] := by simp
    obtain ⟨fresh, hfresh⟩ := afterEvents_json true (.start total :: body ++ [.finish total failed])
    rw [hsplit, write_append, hfresh]
    exact List.append_nil _
  rw [hflush, write_json (isInner_of_takesUp hbody)]
  exact ⟨_, document_records _⟩

section

variable {d₁ d₂ : Dialect} {style₁ style₂ : PathStyle} {policy₁ policy₂ : Policy} {a b : Text}
  {total₁ failed₁ total₂ failed₂ : Nat}

/-- Of two runs into a fresh writer, the second is written as it would be by a fresh writer exactly
when the writer is a terminal.  Into the JSON writer each of the runs alone is one array, but behind
the first one the array of the second starts with a comma, and is no JSON. -/
theorem write_append_eq_iff {w : Writer} (hw : w.IsFresh)
    (ha : (Run.ofText d₁ style₁ policy₁ a).result = .ok (.rendered total₁ failed₁))
    (hb : (Run.ofText d₂ style₂ policy₂ b).result = .ok (.rendered total₂ failed₂)) :
    (w.write ((Run.ofText d₁ style₁ policy₁ a).events ++ (Run.ofText d₂ style₂ policy₂ b).events) =
        w.write (Run.ofText d₁ style₁ policy₁ a).events ++
          w.write (Run.ofText d₂ style₂ policy₂ b).events ↔
      ∃ t, w = terminal t) ∧
    (w = json true →
      (∃ items, Json.Document (.array items) (w.write (Run.ofText d₁ style₁ policy₁ a).events)) ∧
      (∃ items, Json.Document (.array items) (w.write (Run.ofText d₂ style₂ policy₂ b).events)) ∧
      ∃ rest, w.write (Run.ofText d₂ style₂ policy₂ b).events = "[\n".toList ++ rest ∧
        w.write ((Run.ofText d₁ style₁ policy₁ a).events ++
            (Run.ofText d₂ style₂ policy₂ b).events) =
          w.write (Run.ofText d₁ style₁ policy₁ a).events ++
            ("[\n".toList ++ ",\n".toList ++ rest) ∧
        ∀ v, ¬ Json.Document v ("[\n".toList ++ ",\n".toList ++ rest)) := by
  obtain ⟨hprotocol₁, hpos₁⟩ := Run.protocol_of_result ha
  obtain ⟨hprotocol₂, hpos₂⟩ := Run.protocol_of_result hb
  cases w with
  | terminal t =>
      refine ⟨iff_of_true ?_ ⟨t, rfl⟩, nofun⟩
      rw [write_append, afterEvents_terminal]
  | json fresh =>
      have hfresh : fresh = true := hw
      subst hfresh
      obtain ⟨rest, hrest⟩ := exists_write_json hprotocol₂ hpos₂
      have hfirst : (json true).write (Run.ofText d₂ style₂ policy₂ b).events =
          "[\n".toList ++ rest := hrest true
      have hsecond : (json false).write (Run.ofText d₂ style₂ policy₂ b).events =
          "[\n".toList ++ ",\n".toList ++ rest := hrest false
      have hboth := write_append (json true) (Run.ofText d₁ style₁ policy₁ a).events
        (Run.ofText d₂ style₂ policy₂ b).events
      rw [afterEvents_json_of_protocol hprotocol₁ hpos₁, hsecond] at hboth
      refine ⟨iff_of_false (fun h => ?_) nofun, fun _ => ⟨exists_document_of_protocol hprotocol₁,
        exists_document_of_protocol hprotocol₂, rest, hfirst, hboth, Json.not_document_comma rest⟩⟩
      rw [hboth, hfirst] at h
      have hlength := congrArg List.length (List.append_cancel_left h)
      simp at hlength
      omega

/-- A run over one block, and one that skips the second of two blocks. -/
theorem write_append_eq_iff_skip :
    (json true).IsFresh ∧
      (Run.ofText .ocaml4 id .abort "File \"a\", line 1:\nError: x".toList).result =
        .ok (.rendered 1 0) ∧
      (Run.ofText .ocaml4 id .isolate
        "File \"a\", line 1:\nError: x\nFile \"b\", line 2:\n".toList).result =
        .ok (.rendered 2 1) ∧
      ∃ rest,
        (json true).write (Run.ofText .ocaml4 id .isolate
          "File \"a\", line 1:\nError: x\nFile \"b\", line 2:\n".toList).events =
            "[\n".toList ++ rest ∧
        ∀ v, ¬ Json.Document v ("[\n".toList ++ ",\n".toList ++ rest) := by
  have ha : (Run.ofText .ocaml4 id .abort "File \"a\", line 1:\nError: x".toList).result =
      .ok (.rendered 1 0) := by rfl
  have hb : (Run.ofText .ocaml4 id .isolate
      "File \"a\", line 1:\nError: x\nFile \"b\", line 2:\n".toList).result =
      .ok (.rendered 2 1) := by rfl
  obtain ⟨-, -, rest, hrest, -, hnot⟩ :=
    (write_append_eq_iff (w := json true) rfl ha hb).2 rfl
  exact ⟨rfl, ha, hb, rest, hrest, hnot⟩

/-- The same run twice. -/
theorem write_append_ne_twice :
    (Run.ofText .ocaml4 id .abort "File \"a\", line 1:\nError: x".toList).result =
        .ok (.rendered 1 0) ∧
      (json true).write
          ((Run.ofText .ocaml4 id .abort "File \"a\", line 1:\nError: x".toList).events ++
            (Run.ofText .ocaml4 id .abort "File \"a\", line 1:\nError: x".toList).events) ≠
        (json true).write
            (Run.ofText .ocaml4 id .abort "File \"a\", line 1:\nError: x".toList).events ++
          (json true).write
            (Run.ofText .ocaml4 id .abort "File \"a\", line 1:\nError: x".toList).events :=
  ⟨by rfl, by decide +kernel⟩

end

end Writer
end TypeReport
