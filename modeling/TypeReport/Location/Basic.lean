import TypeReport.Text.Numeral
import TypeReport.Dialect

/-! # Locations

A location names a stretch of a source file: a path, its first and last line, and
optionally a range of characters and a label that says what stands there.
`print` is the location line a compiler writes for it, and `place` the short form
used in titles and messages. -/

namespace TypeReport

/-- A stretch of a source file.  Lines are counted from one, characters from the start of the first
line; the label says what stands there. -/
structure Location where
  path : Text
  startLine : Nat
  endLine : Nat
  characters : Option (Nat × Nat)
  label : Option Text
deriving DecidableEq

namespace Location

def isMultiline (l : Location) : Bool := l.endLine ≠ l.startLine

/-- The path and the first line of a location. -/
def place (l : Location) : Text := l.path ++ ':' :: Text.ofNat l.startLine

def mapPath (style : Text → Text) (l : Location) : Location := { l with path := style l.path }

def printRange (r : Nat × Nat) : Text := Text.ofNat r.1 ++ '-' :: Text.ofNat r.2

/-- The field about lines. -/
def printLines (l : Location) : Text :=
  if l.isMultiline then "lines ".toList ++ printRange (l.startLine, l.endLine)
  else "line ".toList ++ Text.ofNat l.startLine

/-- The field about characters, with the comma before it. -/
def printCharacters : Option (Nat × Nat) → Text
  | none => []
  | some r => ", characters ".toList ++ printRange r

/-- The label, with the space before it. -/
def printLabel : Option Text → Text
  | none => []
  | some label => ' ' :: label

/-- The location line of a location. -/
def print (d : Dialect) (l : Location) : Text :=
  d.locationOpening ++ l.path ++ "\", ".toList ++ l.printLines ++ printCharacters l.characters ++
    ':' :: printLabel l.label

end Location
end TypeReport
