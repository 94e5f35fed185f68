import TypeReport.Backtrace.Basic

/-! # Printing levels

The compiler words a level of a mismatch in one of three ways.  Each has a label before
the first side and a connective between the sides.  Two of them take one line, and the
third, for the declarations of values, has a line for each part. -/

namespace TypeReport

/-- The wording of a level. -/
inductive Wording where
  | plainType
  | definiteType
  | values
deriving DecidableEq

namespace Wording

/-- What stands before the first side. -/
def label : Wording → Text
  | plainType => "Type".toList
  | definiteType => "The type".toList
  | values => "Values do not match:".toList

/-- What stands between the sides. -/
def connective : Wording → Text
  | plainType => "is not compatible with type".toList
  | definiteType => "is not compatible with the type".toList
  | values => "is not included in".toList

/-- Whether the whole level stands on one line. -/
def isInline : Wording → Bool
  | values => false
  | _ => true

end Wording

/-- A level of a mismatch. -/
structure Level where
  wording : Wording
  sides : Sides

def Level.lines (l : Level) : List Text :=
  if l.wording.isInline then
    [l.wording.label ++ ' ' :: l.sides.implementation ++ ' ' :: l.wording.connective ++
      ' ' :: l.sides.interface]
  else [l.wording.label, l.sides.implementation, l.wording.connective, l.sides.interface]

example : Level.lines ⟨.definiteType, ['a'], ['b']⟩ =
    ["The type a is not compatible with the type b".toList] := by decide

example : Level.lines ⟨.values, ['a'], ['b']⟩ =
    ["Values do not match:".toList, ['a'], "is not included in".toList, ['b']] := by decide

end TypeReport
