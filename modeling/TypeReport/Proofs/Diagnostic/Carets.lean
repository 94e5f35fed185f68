import TypeReport.Proofs.Diagnostic.Marker
import TypeReport.Proofs.Diagnostic.Reading

/-! # What the carets of a block stand under

The carets of a block count from the start of the printed line, and the marker from the
start of its text.  When no caret stands left of the text, and the first and the last stand
at boundaries of it (`Block.HasCaretsUnder`), the marker covers just what they stand under
on the printed line (`exists_slice?_marker`). -/

namespace TypeReport

namespace Block

/-- Whether the last source line of a block is printed with a label and a bar before its text, and
the part of the printed line from the first caret to the last is a part of that text. -/
structure HasCaretsUnder (d : Dialect) (b : Block) (label text : Text) (lo hi : Nat) : Prop where
  printed : (b.sourceLines d).getLast? = some (label ++ " | ".toList ++ text)
  first : IsLeast (Marker.caretOffsets (b.markerLines d)) lo
  last : IsGreatest (Marker.caretOffsets (b.markerLines d)) hi
  gutter : label.size + 3 ≤ lo
  start : text.IsBoundary (lo - (label.size + 3))
  -- and so the last caret does not stand behind the text
  stop : text.IsBoundary (hi + 1 - (label.size + 3))

end Block

/-- A source line that is printed with one space behind the bar has its label before it. -/
theorem Echo.IsFrom.size_eq {label line : Text} {n : Nat} {l : SourceLine}
    (h : Echo.IsFrom line (.source n l)) (hline : line = label ++ " | ".toList ++ l.text) :
    n = label.size := by
  cases h with
  | @source digits blanks space _ _ _ _ _ _ hspace hprinted =>
      rw [hprinted] at hline
      rcases hspace with rfl | ⟨rfl, -⟩
      · have hbar : " | ".toList = " |".toList ++ [' '] := rfl
        rw [hbar, ← List.append_assoc, ← List.append_assoc] at hline
        have hlabel := List.append_cancel_right (List.append_cancel_right hline)
        rw [List.append_cancel_right hlabel]
      · -- A bar with no space behind it is not one with a space.
        rw [List.nil_append] at hline
        have hlast := congrArg List.getLast? (List.append_cancel_right hline)
        rw [List.getLast?_append_of_ne_nil _ (by decide),
          List.getLast?_append_of_ne_nil _ (by decide)] at hlast
        cases hlast

namespace Diagnostic

variable {d : Dialect} {style : PathStyle} {b : Block} {e : Diagnostic}

theorem isFrom_getLast? (h : parse d style b = .ok e) {last : SourceLine} {line : Text}
    (hlast : e.snippet.getLast? = some last) (hline : (b.sourceLines d).getLast? = some line) :
    ∃ n, Echo.IsFrom line (.source n last) ∧
      e.marker = Marker.span? (b.markerLines d) n last.text := by
  obtain ⟨sources, hsources, hsnippet, hmarker⟩ := exists_sources_of_parse h
  rw [hsnippet, List.getLast?_map, Option.map_eq_some_iff] at hlast
  obtain ⟨⟨n, l⟩, hsource, rfl⟩ := hlast
  refine ⟨n, rel_of_getLast? hsources hline hsource, ?_⟩
  rw [hmarker, markerOf?, hsource, Option.bind_some]

theorem exists_slice?_marker (h : parse d style b = .ok e) {last : SourceLine}
    (hlast : e.snippet.getLast? = some last) {label : Text} {lo hi : Nat}
    (hcarets : b.HasCaretsUnder d label last.text lo hi) :
    ∃ r inside, e.marker = some r ∧ r.slice? last.text = some inside ∧
      (Span.mk lo (hi + 1)).slice? (label ++ " | ".toList ++ last.text) = some inside := by
  obtain ⟨n, hfrom, hmarker⟩ := isFrom_getLast? h hlast hcarets.printed
  obtain rfl : n = label.size := hfrom.size_eq rfl
  have hspan : e.marker = some ⟨lo - (label.size + 3), hi + 1 - (label.size + 3)⟩ := by
    rw [hmarker, Marker.span?_eq_some_of_isLeast hcarets.first hcarets.last]
    exact congrArg some (congrArg₂ Span.mk (Text.isBoundary_iff.1 hcarets.start)
      (Text.isBoundary_iff.1 hcarets.stop))
  obtain ⟨before, inside, behind, hcut⟩ :=
    Span.isIn_iff_exists_cut?.1 (Marker.isIn_of_span? (hmarker.symm.trans hspan))
  refine ⟨_, inside, hspan, by rw [Span.slice?, hcut]; rfl, ?_⟩
  -- In the printed line, the gutter stands before what is cut off in front.
  obtain ⟨htext, hstart, hstop⟩ := Span.append_of_cut? hcut
  have hgutter : (label ++ " | ".toList).size = label.size + 3 := by
    rw [Text.size_append]
    rfl
  have hlower := hcarets.gutter
  have hordered : lo ≤ hi := hcarets.last.2 hcarets.first.1
  have hcut' : (Span.mk lo (hi + 1)).cut? (label ++ " | ".toList ++ last.text) =
      some (label ++ " | ".toList ++ before, inside, behind) := by
    refine Span.cut?_eq_some_iff.2 ⟨?_, ?_, ?_⟩
    · rw [← htext]
      simp only [List.append_assoc]
    · rw [Text.size_append, hgutter, hstart]
      exact Nat.add_sub_cancel' hlower
    · rw [List.append_assoc, Text.size_append, hgutter, hstop]
      exact Nat.add_sub_cancel' (by omega)
  rw [Span.slice?, hcut']
  rfl

/-- The marker covers what the carets stand under: there is one just when there is a caret, it runs
from the first caret to the last with the gutter taken off and the ends rounded down, it has a part
of the text, and the order of the marker lines does not matter.  So if the carets of a block stand
under a part of the text of its last source line, the marker covers that part. -/
theorem marker_isUnder_carets :
    (∀ (markerLines : List Text) (labelSize : Nat) (source : Text),
      (Marker.span? markerLines labelSize source = none ↔ ∀ line ∈ markerLines, '^' ∉ line) ∧
      (∀ r, Marker.span? markerLines labelSize source = some r ↔
        Marker.IsUnder markerLines labelSize source r) ∧
      (∀ r, Marker.span? markerLines labelSize source = some r →
        r.start ≤ r.stop ∧ ∃ inside, r.slice? source = some inside) ∧
      ∀ markerLines', markerLines.Perm markerLines' →
        Marker.span? markerLines' labelSize source = Marker.span? markerLines labelSize source) ∧
    ∀ (d : Dialect) (style : PathStyle) (b : Block) (e : Diagnostic) (last : SourceLine)
      (label : Text) (lo hi : Nat), parse d style b = .ok e → e.snippet.getLast? = some last →
      b.HasCaretsUnder d label last.text lo hi →
      ∃ r inside, e.marker = some r ∧ r.slice? last.text = some inside ∧
        (Span.mk lo (hi + 1)).slice? (label ++ " | ".toList ++ last.text) = some inside := by
  constructor
  · intro markerLines labelSize source
    refine ⟨Marker.span?_eq_none_iff, fun r => Marker.span?_eq_some_iff, fun r hr => ?_,
      fun markerLines' hperm => ?_⟩
    · have hisIn := Marker.isIn_of_span? hr
      exact ⟨hisIn.ordered, Option.isSome_iff_exists.1 (Span.isIn_iff_isSome_slice?.1 hisIn)⟩
    · refine Marker.span?_congr (Set.ext fun n => ?_)
      simp only [Marker.caretOffsets, Set.mem_ofPred_eq, hperm.mem_iff]
  · intro d style b e last label lo hi hparse hlast hcarets
    exact exists_slice?_marker hparse hlast hcarets

/-- Two source lines with labels of different sizes, and the last caret on the first marker line. -/
theorem marker_isUnder_carets_two_lines :
    ∃ r inside, parse .ocaml4 id ⟨0, ("File \"a\", line 9:\n9 | x\n10 | éa é\n" ++
          "          ^\n       ^\nError: e\n").toList⟩ =
        .ok ⟨⟨['a'], 9, 9, none, none⟩, [⟨9, ['x']⟩, ⟨10, "éa é".toList⟩], some r,
          .plain "Error: e".toList⟩ ∧
      r.start ≤ r.stop ∧ r.slice? "éa é".toList = some inside ∧
      (Span.mk 7 11).slice? "10 | éa é".toList = some inside ∧
      Marker.span? ["       ^".toList, "          ^".toList] 2 "éa é".toList =
        Marker.span? ["          ^".toList, "       ^".toList] 2 "éa é".toList := by
  obtain ⟨hspan, hblock⟩ := marker_isUnder_carets
  obtain ⟨-, -, hslice, hperm⟩ := hspan ["          ^".toList, "       ^".toList] 2 "éa é".toList
  have hparse : parse .ocaml4 id ⟨0, ("File \"a\", line 9:\n9 | x\n10 | éa é\n" ++
      "          ^\n       ^\nError: e\n").toList⟩ =
      .ok ⟨⟨['a'], 9, 9, none, none⟩, [⟨9, ['x']⟩, ⟨10, "éa é".toList⟩], some ⟨2, 6⟩,
        .plain "Error: e".toList⟩ := by
    decide +kernel
  obtain ⟨r, inside, hr, hinside, hprinted⟩ :=
    hblock .ocaml4 id _ _ ⟨10, "éa é".toList⟩ "10".toList 7 10 hparse rfl <| by
      constructor
      · decide +kernel
      · exact Marker.min?_offsets_eq_some_iff.1 (by decide +kernel)
      · exact Marker.max?_offsets_eq_some_iff.1 (by decide +kernel)
      · decide
      · exact Text.isBoundary_iff.2 (by decide)
      · exact Text.isBoundary_iff.2 (by decide)
  cases hr
  have hordered := (hslice ⟨2, 6⟩ (by decide)).1
  exact ⟨_, inside, hparse, hordered, hinside, hprinted, hperm _ (List.Perm.swap _ _ _)⟩

end Diagnostic
end TypeReport
