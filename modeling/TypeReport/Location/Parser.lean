import TypeReport.Location.Basic
import TypeReport.Failure
import TypeReport.Path

/-! # Reading location lines

    File "src/a.ml", line 3, characters 8-11:
    File "src/a.ml", lines 3-5, characters 2-10: Expected declaration

The path runs to the next quote, the fields to the next colon, and the label to
the end of the line.  Faults are found from left to right, so that a line with
several of them is blamed for the first. -/

namespace TypeReport.Location

open Text

/-- Two numerals with a dash between. -/
def readRange? (s : Text) : Option (Nat × Nat) := do
  let (first, last) ← s.trim.around? ['-']
  return (← readNat? first.trim, ← readNat? last.trim)

/-- The field about lines: the first and the last line. -/
def readLines (field : Text) : Except LocationFault (Nat × Nat) :=
  match field.after? "lines ".toList with
  | some range => require .lineRange (readRange? range)
  | none =>
      match field.after? "line ".toList with
      | some number => require .lineNumber ((readNat? number.trim).map fun n => (n, n))
      | none => .error .lineKeyword

/-- The field about characters. -/
def readCharacters (field : Text) : Except LocationFault (Nat × Nat) := do
  let range ← require .charactersKeyword (field.after? "characters ".toList)
  require .characterRange (readRange? range)

/-- The fields about lines and about characters, the second of which may be absent.  A comma comes
before each. -/
def readFields (fields : Text) : Except LocationFault (Text × Option Text) :=
  match (fields.splitOn ',').map trim with
  | [[], lines] => .ok (lines, none)
  | [[], lines, characters] => .ok (lines, some characters)
  | _ => .error .fieldCount

/-- Reads a location from a line, which may be indented. -/
def read (d : Dialect) (style : PathStyle) (line : Text) : Except LocationFault Location := do
  let rest ← require .missingOpening (line.trim.after? d.locationOpening)
  let (path, rest) ← require .unterminatedPath (rest.around? ['"'])
  let (fields, label) ← require .missingColon (rest.around? [':'])
  let (linesField, charactersField) ← readFields fields
  let (startLine, endLine) ← readLines linesField
  if endLine < startLine then throw .reversedLines
  let characters ← charactersField.mapM readCharacters
  let label := label.trim
  return ⟨style path, startLine, endLine, characters, if label = [] then none else some label⟩

/-- Reads a location, or says which line is not one. -/
def parse (d : Dialect) (style : PathStyle) (line : Text) : Except Failure Location :=
  (read d style line).mapError (.malformedLocation line)

example :
    (read .ocaml4 id " File \"a.ml\", line 2, characters 0-1: Note ".toList).toOption =
      some ⟨"a.ml".toList, 2, 2, some (0, 1), some "Note".toList⟩ := by decide

/-- The reversed lines are found before the missing word. -/
example : (read .ocaml4 id "File \"a.ml\", lines 3-2, 0-1:".toList).toOption = none ∧
    read .ocaml4 id "File \"a.ml\", lines 3-2, 0-1:".toList matches .error .reversedLines := by
  decide

end TypeReport.Location
