import TypeReport.Proofs.Backtrace.Marks
import TypeReport.Proofs.Diagnostic.Marker
import TypeReport.Proofs.Diagnostic.Reading

/-! # The spans of a diagnostic

The marker of a diagnostic lies in its last source line: its ends are rounded down to
character boundaries of that line, wherever the carets stand (`Marker.isIn_of_span?`).  The
marks of a backtrace lie in the sides of their frames.  So each span that is read can be
cut out of the text that it belongs to (`spans_of_parse`). -/

namespace TypeReport

namespace Diagnostic

/-- A marker marks the last source line, so there is one. -/
theorem isIn_of_parse {d : Dialect} {style : PathStyle} {b : Block} {e : Diagnostic}
    (h : parse d style b = .ok e) :
    ∀ r ∈ e.marker, ∃ last ∈ e.snippet.getLast?, r.IsIn last.text := by
  obtain ⟨sources, -, hsnippet, hmarker⟩ := exists_sources_of_parse h
  intro r hr
  rw [hmarker] at hr
  obtain ⟨s, hs, hspan⟩ := Option.bind_eq_some_iff.1 hr
  refine ⟨s.2, ?_, Marker.isIn_of_span? hspan⟩
  rw [hsnippet, List.getLast?_map, hs]
  rfl

theorem isMarked_of_parse {d : Dialect} {style : PathStyle} {b : Block} {e : Diagnostic}
    (h : parse d style b = .ok e) {t : Backtrace} (ht : t ∈ e.kind.backtrace?) :
    (∀ f ∈ t.frames, f.IsMarked) ∧
      ∀ f ∈ t.frames.head?, f.implementationMark = none ∧ f.interfaceMark = none := by
  obtain ⟨first, rest, location, -, -, hbody⟩ := parse_eq_ok_iff.1 h
  obtain ⟨echoes, errorLine, rest', kind, -, -, hkind, rfl⟩ := parseBody_eq_ok_iff.1 hbody
  obtain ⟨ls, -, hbacktrace⟩ := Kind.exists_parse_of_backtrace? hkind ht
  exact Backtrace.isMarked_of_parse hbacktrace

/-- Every span of a diagnostic that is read has a part of the text that it belongs to: the marker
one of the last source line, and each mark of a frame one of its side, which is not empty.  The
first frame has no marks. -/
theorem spans_of_parse {d : Dialect} {style : PathStyle} {b : Block} {e : Diagnostic}
    (h : parse d style b = .ok e) :
    (∀ r ∈ e.marker, ∃ last ∈ e.snippet.getLast?,
      r.IsIn last.text ∧ ∃ inside, r.slice? last.text = some inside) ∧
    ∀ t ∈ e.kind.backtrace?,
      (∀ f ∈ t.frames,
        (∀ r ∈ f.implementationMark,
          r.isEmpty = false ∧ ∃ inside, r.slice? f.implementation = some inside) ∧
        ∀ r ∈ f.interfaceMark, r.isEmpty = false ∧ ∃ inside, r.slice? f.interface = some inside) ∧
      ∀ f ∈ t.frames.head?, f.implementationMark = none ∧ f.interfaceMark = none := by
  have hslice (r : Span) (s : Text) (hr : r.IsIn s) : ∃ inside, r.slice? s = some inside :=
    Option.isSome_iff_exists.1 (Span.isIn_iff_isSome_slice?.1 hr)
  constructor
  · intro r hr
    obtain ⟨last, hlast, hisIn⟩ := isIn_of_parse h r hr
    exact ⟨last, hlast, hisIn, hslice r last.text hisIn⟩
  · intro t ht
    obtain ⟨hframes, hfirst⟩ := isMarked_of_parse h ht
    refine ⟨fun f hf => ⟨fun r hr => ?_, fun r hr => ?_⟩, hfirst⟩
    · obtain ⟨hne, hisIn⟩ := (hframes f hf).implementation r hr
      exact ⟨hne, hslice r _ hisIn⟩
    · obtain ⟨hne, hisIn⟩ := (hframes f hf).interface r hr
      exact ⟨hne, hslice r _ hisIn⟩

/-- A caret in the middle of a character, and a name that one side of a frame repeats. -/
theorem spans_of_parse_sample :
    ∃ e, parse .ocaml4 id ⟨0, ("File \"a\", line 1:\n1 | é = é\n     ^\n" ++
          "Error: This expression has type t is not included in u u\n" ++
          "Type s = 1 is not included in val u = 3\n").toList⟩ = .ok e ∧
      e.marker = some ⟨0, 2⟩ ∧
      (∃ last ∈ e.snippet.getLast?, ∃ inside, (⟨0, 2⟩ : Span).slice? last.text = some inside) ∧
      ∃ t ∈ e.kind.backtrace?, ∃ f ∈ t.frames, f.interfaceMark = some ⟨0, 1⟩ ∧
        ∃ inside, (⟨0, 1⟩ : Span).slice? f.interface = some inside := by
  have hparse : parse .ocaml4 id ⟨0, ("File \"a\", line 1:\n1 | é = é\n     ^\n" ++
      "Error: This expression has type t is not included in u u\n" ++
      "Type s = 1 is not included in val u = 3\n").toList⟩ =
      .ok ⟨⟨['a'], 1, 1, none, none⟩, [⟨1, "é = é".toList⟩], some ⟨0, 2⟩,
        .expressionMismatch "This expression has type t is not included in u u".toList
          ⟨[⟨⟨"s = 1".toList, "val u = 3".toList⟩, none, none⟩,
            ⟨⟨['t'], "u u".toList⟩, none, some ⟨0, 1⟩⟩], none⟩⟩ := by
    decide +kernel
  obtain ⟨hmarker, hframes⟩ := spans_of_parse hparse
  refine ⟨_, hparse, rfl, ?_, _, rfl, _, List.mem_cons_of_mem _ List.mem_cons_self, rfl, ?_⟩
  · obtain ⟨last, hlast, -, hinside⟩ := hmarker _ rfl
    exact ⟨last, hlast, hinside⟩
  · exact (((hframes _ rfl).1 _ (List.mem_cons_of_mem _ List.mem_cons_self)).2 _ rfl).2

end Diagnostic
end TypeReport
