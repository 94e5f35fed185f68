import TypeReport.Proofs.Panel.Characters
import TypeReport.Report.Writer

/-! # Colours are nothing but paint

A terminal with colours lays its lines out as one without, marks aside
(`map_text_lines_unmarked`), and its paint comes off again.  So what it writes, without
the escape sequences, is what a terminal without colours writes for the same events
without their marks (`unpaint_write`), as long as no string of an event brings an escape
character of its own. -/

namespace TypeReport

namespace Terminal

/-- A terminal with colours shows what one without colours shows of the events without marks. -/
theorem map_text_lines_unmarked {t u : Terminal} (ht : t.colours = true) (hu : u.colours = false)
    (hwidth : t.width = u.width) (e : Event) :
    (t.lines e).map Line.text = (u.lines e.unmarked).map Line.text := by
  cases e with
  | diagnostic index e =>
      have htitle : e.unmarked.title index = e.title index := rfl
      have hbody := Panel.map_text_body_unmarked true e
      show (Panel.lines t.width (e.title index) (Panel.body (!t.colours) e.sections)).map Line.text =
        (Panel.lines u.width (e.unmarked.title index)
          (Panel.body (!u.colours) e.unmarked.sections)).map Line.text
      rw [ht, hu, hwidth, htitle]
      exact Panel.map_text_lines_congr u.width (e.title index) hbody.symm
  | start total => rfl
  | progress total completed => rfl
  | skipped s => rfl
  | finish total failed => rfl
  | flush => rfl

theorem write_eq (t : Terminal) (e : Event) :
    t.write e = (t.lines e).flatMap fun l => l.paint t.colours ++ ['\n'] := rfl

theorem unpaint_write_append {t u : Terminal} (ht : t.colours = true) (hu : u.colours = false)
    (hwidth : t.width = u.width) {e : Event} (h : ∀ s ∈ e.strings, '\x1b' ∉ s) (s : Text) :
    unpaint false (t.write e ++ s) = u.write e.unmarked ++ unpaint false s := by
  have htexts (ls : List Line) : ls.flatMap (fun l => l.text ++ ['\n']) =
      (ls.map Line.text).flatMap (· ++ ['\n']) := by
    rw [List.flatMap_map]
  rw [write_eq, write_eq, ht, hu, Line.unpaint_lines (escape_not_mem_lines ht h)]
  simp only [Line.paint_false]
  rw [htexts, htexts, map_text_lines_unmarked ht hu hwidth]

end Terminal

namespace Writer

theorem write_terminal_cons (t : Terminal) (e : Event) (es : List Event) :
    (terminal t).write (e :: es) = t.write e ++ (terminal t).write es := rfl

/-- What a terminal writes in colours for some events is, without the escape sequences, what it
writes without colours for the same events without marks. -/
theorem unpaint_write (t : Terminal) {es : List Event}
    (h : ∀ e ∈ es, ∀ s ∈ e.strings, '\x1b' ∉ s) :
    unpaint false ((terminal { t with colours := true }).write es) =
      (terminal { t with colours := false }).write (es.map Event.unmarked) := by
  induction es with
  | nil => rfl
  | cons e es ih =>
      rw [List.forall_mem_cons] at h
      have hwrite := Terminal.unpaint_write_append (t := { t with colours := true })
        (u := { t with colours := false }) rfl rfl rfl h.1
      rw [write_terminal_cons, hwrite, ih h.2]
      rfl

/-- A marked source line, a frame of two lines with a mark, and a skipped block. -/
theorem unpaint_write_two_reports :
    unpaint false ((terminal ⟨true, 40, by decide⟩).write
        [.start 2, .diagnostic 0 ⟨⟨['a'], 1, 1, none, none⟩, [⟨1, "é = é".toList⟩], some ⟨0, 2⟩,
            .expressionMismatch ['t'] ⟨[⟨⟨"s\ns".toList, ['s']⟩, some ⟨0, 3⟩, some ⟨0, 1⟩⟩], none⟩⟩,
          .skipped ⟨1, none, .missingErrorLine ['b']⟩, .finish 2 1, .flush]) =
      (terminal ⟨false, 40, by decide⟩).write
        [.start 2, .diagnostic 0 ⟨⟨['a'], 1, 1, none, none⟩, [⟨1, "é = é".toList⟩], none,
            .expressionMismatch ['t'] ⟨[⟨⟨"s\ns".toList, ['s']⟩, none, none⟩], none⟩⟩,
          .skipped ⟨1, none, .missingErrorLine ['b']⟩, .finish 2 1, .flush] := by
  apply unpaint_write ⟨true, 40, by decide⟩
  decide

end Writer
end TypeReport
