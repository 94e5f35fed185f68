import TypeReport.Proofs.Json.Completeness
import TypeReport.Proofs.Json.Printer
import TypeReport.Proofs.Report.Records
import TypeReport.Report.Writer

/-! # The array of records

Between its start and its finish a run is written as one JSON document, whatever its
reports are: an array with one object for each, in order, and each object says what
its report does (`Writer.json_document`).  Both sides of the grammar are needed: the
text is a way to write the array, and no other value can be read from it. -/

namespace TypeReport

namespace Event

/-- Whether an event stands between the start and the finish of a run. -/
def isInner : Event → Bool
  | .start _ => false
  | .finish .. => false
  | _ => true

end Event

namespace Writer

/-! ### Events one after the other -/

theorem write_cons (w : Writer) (e : Event) (es : List Event) :
    w.write (e :: es) = (w.step e).1 ++ (w.step e).2.write es := rfl

theorem write_append (w : Writer) (es fs : List Event) :
    w.write (es ++ fs) = w.write es ++ (w.afterEvents es).write fs := by
  induction es generalizing w with
  | nil => rfl
  | cons e es ih =>
      rw [List.cons_append, write_cons, write_cons, ih, List.append_assoc]
      rfl

/-! ### Records one after the other -/

theorem step_json_of_record {e : Event} {record : Json} (h : e.record? = some record)
    (fresh : Bool) : (json fresh).step e = (separated fresh record, json false) := by
  cases e with
  | diagnostic index e => cases h; rfl
  | skipped s => cases h; rfl
  | _ => cases h

theorem step_json_of_inner {e : Event} (h : e.record? = none) (hinner : e.isInner = true)
    (fresh : Bool) : (json fresh).step e = ([], json fresh) := by
  cases e with
  | start total => cases hinner
  | finish total failed => cases hinner
  | diagnostic index e => cases h
  | skipped s => cases h
  | _ => rfl

theorem afterEvents_json (fresh : Bool) (es : List Event) :
    ∃ fresh', (json fresh).afterEvents es = json fresh' := by
  induction es generalizing fresh with
  | nil => exact ⟨fresh, rfl⟩
  | cons e es ih =>
      cases e with
      | diagnostic index e => exact ih false
      | skipped s => exact ih false
      | _ => exact ih fresh

theorem write_json_false {es : List Event} (h : ∀ e ∈ es, e.isInner = true) :
    (json false).write es =
      ((es.filterMap Event.record?).map Record.print).flatMap (",\n".toList ++ ·) := by
  induction es with
  | nil => rfl
  | cons e es ih =>
      have hes := ih fun e he => h e (List.mem_cons_of_mem _ he)
      have he := h e (by simp)
      rw [write_cons]
      cases hrecord : e.record? with
      | none =>
          rw [step_json_of_inner hrecord he, List.filterMap_cons_none hrecord]
          exact hes
      | some record =>
          rw [step_json_of_record hrecord, List.filterMap_cons_some hrecord, hes]
          rfl

theorem intercalate_cons (sep t : Text) (ts : List Text) :
    sep.intercalate (t :: ts) = t ++ ts.flatMap (sep ++ ·) := by
  induction ts generalizing t with
  | nil => simp [List.intercalate_singleton]
  | cons u us ih =>
      rw [List.intercalate_cons_cons, ih, List.flatMap_cons]
      simp only [List.append_assoc]

theorem write_json_true {es : List Event} (h : ∀ e ∈ es, e.isInner = true) :
    (json true).write es =
      ",\n".toList.intercalate ((es.filterMap Event.record?).map Record.print) := by
  induction es with
  | nil => rfl
  | cons e es ih =>
      have hinner : ∀ e ∈ es, e.isInner = true := fun e he => h e (List.mem_cons_of_mem _ he)
      have he := h e (by simp)
      rw [write_cons]
      cases hrecord : e.record? with
      | none =>
          -- Nothing is written, so the next record may still be the first.
          rw [step_json_of_inner hrecord he, List.filterMap_cons_none hrecord]
          exact ih hinner
      | some record =>
          rw [step_json_of_record hrecord, List.filterMap_cons_some hrecord, List.map_cons,
            intercalate_cons, write_json_false hinner]
          rfl

/-- What the JSON writer makes of a whole run. -/
theorem write_json {es : List Event} (h : ∀ e ∈ es, e.isInner = true) (total n failed : Nat) :
    (json true).write (.start total :: es ++ [.finish n failed]) =
      "[\n".toList ++ ",\n".toList.intercalate ((es.filterMap Event.record?).map Record.print) ++
        "\n]\n".toList := by
  obtain ⟨fresh, hfresh⟩ := afterEvents_json true (.start total :: es)
  rw [write_append, hfresh, write_cons, show (step (json true) _).2 = json true from rfl,
    write_json_true h]
  rfl

/-! ### The document -/

open Json

theorem document_records (records : List Json) :
    Document (.array records)
      ("[\n".toList ++ ",\n".toList.intercalate (records.map Record.print) ++ "\n]\n".toList) := by
  have hgap : IsGap ['\n'] := isGap_cons rfl isGap_nil
  cases records with
  | nil => exact ⟨[], _, ['\n'], rfl, isGap_nil, hgap, .emptyArray (isGap_append hgap hgap)⟩
  | cons v vs =>
      have hprint (v : Json) : Padded (.value v) (Record.print v) :=
        (spells_block Record.isSpread 1 v).padded.gap_append (isGap_indent 1)
      have hall : List.Forall₂ Padded ((v :: vs).map .value) ((v :: vs).map Record.print) := by
        rw [List.forall₂_map_left_iff, List.forall₂_map_right_iff]
        exact List.forall₂_same.2 fun v _ => hprint v
      have helements := spells_intercalate hgap hall (by simp)
      have harray := Spells.array ((helements.elements_gap_append hgap).elements_append_gap hgap)
      refine ⟨[], _, ['\n'], ?_, isGap_nil, hgap, harray⟩
      simp

/-- A run between its start and its finish is written as one document, an array whose objects say
what the reports of the run do, and no other value can be read from it. -/
theorem json_document {es : List Event} (h : ∀ e ∈ es, e.isInner = true) (total n failed : Nat) :
    ∃ items, Document (.array items)
        ((json true).write (.start total :: es ++ [.finish n failed])) ∧
      (∀ v, Document v ((json true).write (.start total :: es ++ [.finish n failed])) →
        v = .array items) ∧
      read? ((json true).write (.start total :: es ++ [.finish n failed])) =
        some (.array items) ∧
      (∀ v ∈ items, (∃ fields, v = .object fields) ∧ v.IsUnambiguous) ∧
      items.map Record.content? = (es.filterMap Event.content?).map some := by
  have hdocument := document_records (es.filterMap Event.record?)
  rw [← write_json h total n failed] at hdocument
  exact ⟨es.filterMap Event.record?, hdocument, fun v hv => hv.unique hdocument,
    read?_of_document hdocument, fun v hv => Record.isObject_of_mem_records hv,
    Record.map_content?_records es⟩

theorem json_document_mixed :
    ∃ items,
      read? ((json true).write (.start 2 ::
        [.progress 2 1,
         .diagnostic 0
          ⟨⟨"a\".ml".toList, 3, 3, some (4, 6), none⟩, [⟨3, "let é\t\x00".toList⟩], some ⟨4, 6⟩,
            .plain "Error: \\\n".toList⟩,
         .progress 2 2, .skipped ⟨1, none, .unexpectedLine "\x7f".toList⟩] ++
        [.finish 2 1])) = some (.array items) ∧
      items.map Record.content? =
        [some (.diagnostic 0 "Error #1 in a\".ml:3".toList
          ⟨⟨"a\".ml".toList, 3, 3, some (4, 6), none⟩, [⟨3, "let é\t\x00".toList⟩], some ⟨4, 6⟩,
            .plain "Error: \\\n".toList⟩),
         some (.skipped 1 "unexpected_line_in_block".toList
          "unexpected line in error block: `\x7f`".toList none)] := by
  have hinner : ∀ e ∈
      ([.progress 2 1,
        .diagnostic 0
          ⟨⟨"a\".ml".toList, 3, 3, some (4, 6), none⟩, [⟨3, "let é\t\x00".toList⟩], some ⟨4, 6⟩,
            .plain "Error: \\\n".toList⟩,
        .progress 2 2, .skipped ⟨1, none, .unexpectedLine "\x7f".toList⟩] : List Event),
      e.isInner = true := by decide
  obtain ⟨items, -, -, hread, -, hcontent⟩ := json_document hinner 2 2 1
  exact ⟨items, hread, hcontent.trans rfl⟩

end Writer
end TypeReport
