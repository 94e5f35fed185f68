import TypeReport.Text.Search
import TypeReport.Text.Identifier
import TypeReport.Span

/-! # Occurrences of a word

The occurrences of a text are found from left to right, each search starting
where the last occurrence ended.  An occurrence stands alone when no identifier
character touches it on either side, and `wordSpan?` is the first that does. -/

namespace TypeReport.Text

/-- The text on either side of each occurrence of `w`, in a text of which `seen` has been passed
and `rest` is left.  The empty text is found once. -/
def occurrences (w seen rest : Text) : List (Text × Text) :=
  match rest.around? w with
  | none => []
  | some (before, behind) =>
      (seen ++ before, behind) ::
        if behind.length < rest.length then occurrences w (seen ++ before ++ w) behind else []
termination_by rest.length

/-- Whether no identifier character touches the gap between two texts. -/
def standsAlone (before behind : Text) : Bool :=
  !before.getLast?.any isIdentifierChar && !behind.head?.any isIdentifierChar

/-- The span of `w` behind the text `before`. -/
def spanBehind (before w : Text) : Span := ⟨before.size, before.size + w.size⟩

/-- The span of the first occurrence of `w` in `s`. -/
def spanOf? (s w : Text) : Option Span := (s.around? w).map fun (before, _) => spanBehind before w

/-- The span of the first occurrence of `w` in `s` that stands alone. -/
def wordSpan? (s w : Text) : Option Span :=
  ((occurrences w [] s).find? fun (before, behind) => standsAlone before behind).map
    fun (before, _) => spanBehind before w

/-- The `x` of `xs` does not stand alone. -/
example : wordSpan? "xs, x".toList ['x'] = some ⟨4, 5⟩ := by decide +kernel

/-- A search goes on where the last occurrence ended. -/
example : (occurrences "aa".toList [] "aaaaa".toList).map (·.1) = [[], "aa".toList] := by
  decide +kernel

end TypeReport.Text
