import TypeReport.Text.Search
import TypeReport.Text.Blank

/-! # Dialects

A compiler's error messages have no grammar other than their wording, and the
wording changes between releases.  A dialect is one such wording, as data: the
openings by which lines are told apart and the phrases by which a chain of
mismatches is taken to pieces.  The predicates below say what a line or a text is
under a dialect. -/

namespace TypeReport

/-- A wording of the compiler's messages.  A line with a boundary phrase or the boundary heading
opens a chunk, one with a skipped phrase belongs to none, and a chunk with an escape phrase is a
notice.  Of connectives and of labels, an earlier one is preferred. -/
structure Dialect where
  name : Text
  locationOpening : Text
  errorOpening : Text
  expressionOpening : Text
  interfaceOpening : Text
  boundaryPhrases : List Text
  boundaryHeading : Text
  skippedPhrases : List Text
  connectives : List Text
  labels : List Text
  escapePhrases : List Text
deriving DecidableEq

namespace Dialect

/-- The wording of the OCaml 4 type checker. -/
def ocaml4 : Dialect where
  name := "ocaml-4".toList
  locationOpening := "File \"".toList
  errorOpening := "Error:".toList
  expressionOpening := "This expression has type".toList
  interfaceOpening := "The implementation".toList
  boundaryPhrases := ["Values do not match:".toList, "The type".toList]
  boundaryHeading := "Type".toList
  skippedPhrases := ["Types for method".toList]
  connectives :=
    ["is not compatible with type".toList, "is not compatible with the type".toList,
     "is not included in".toList, "but an expression was expected of type".toList]
  labels :=
    ["This expression has type".toList, "Values do not match:".toList,
     "Type declarations do not match:".toList, "The type".toList, "Type".toList]
  escapePhrases := ["would escape its scope".toList]

/-- The dialects that can be selected by name, newest first. -/
def known : List Dialect := [ocaml4]

def ofName? (name : Text) : Option Dialect := known.find? (·.name = name)

def names : List Text := known.map (·.name)

variable (d : Dialect)

/-- Whether a line opens a block.  Locations that a message refers to are indented and do not. -/
def opensBlock (line : Text) : Bool := line.startsWith d.locationOpening

/-- Whether a line is a location, indented or not. -/
def isReference (line : Text) : Bool := line.trimStart.startsWith d.locationOpening

def opensError (line : Text) : Bool := line.startsWith d.errorOpening

/-- Whether a text goes on with a blank, or not at all. -/
def endsWord : Text → Bool
  | [] => true
  | c :: _ => Text.isBlankChar c

/-- Whether a line starts with the boundary heading as a word of its own. -/
def isHeading (line : Text) : Bool := (line.trimStart.after? d.boundaryHeading).any endsWord

/-- Whether a line opens a chunk. -/
def isBoundary (line : Text) : Bool := line.includesAny d.boundaryPhrases || d.isHeading line

/-- Whether a line belongs to no chunk. -/
def isSkipped (line : Text) : Bool := line.includesAny d.skippedPhrases

/-- Whether a chunk is a notice that a type escapes its scope. -/
def isEscape (chunk : Text) : Bool := chunk.includesAny d.escapePhrases

/-- The preferred connective among those in a text: what stands before its first occurrence, the
connective, and what stands after. -/
def atConnective? (s : Text) : Option (Text × Text × Text) :=
  d.connectives.findSome? fun w => (s.around? w).map fun (a, b) => (a, w, b)

/-- A trimmed text without the preferred label in front. -/
def stripLabel (s : Text) : Text :=
  ((d.labels.findSome? s.trimStart.after?).getD s.trimStart).trim

example : ocaml4.isHeading "  Type t".toList = true ∧ ocaml4.isHeading "Types".toList = false := by
  decide

example : ocaml4.stripLabel " The type int ".toList = "int".toList := by decide

end Dialect
end TypeReport
