import TypeReport.Text.Occurrences
import TypeReport.Text.Blank

/-! # Bindings

A frame such as `type t = int` or `val x : int = 3` binds a name.  What stands
before its equals sign is the head of the binding, and the last word of the head,
its type annotation aside, is the bound name.  A later frame is about the same
binding when it repeats the head, or failing that, when it uses the name. -/

namespace TypeReport.Binding

open Text

/-- What stands before the only equals sign of a text. -/
def head? (s : Text) : Option Text :=
  match s.splitOn '=' with
  | [head, _] => if trim head = [] then none else some (trim head)
  | _ => none

/-- The name that a head binds: `val x : int` binds `x`, and `type 'a t` binds `t`. -/
def name? (head : Text) : Option Text :=
  (words (head.takeWhile (· ≠ ':'))).getLast?.filter isIdentifier

/-- Where the binding of one text appears in another. -/
def mark? (previous current : Text) : Option Span := do
  let head ← head? previous
  match spanOf? current head with
  | some span => some span
  | none =>
      let name ← name? head
      if name = head then none else wordSpan? current name

example : head? "val x : int = 3".toList = some "val x : int".toList := by decide

example : name? "type 'a t".toList = some ['t'] ∧ name? "type 'a".toList = none := by decide

example : mark? "val x : int = 3".toList "xs but x".toList = some ⟨7, 8⟩ := by decide +kernel

end TypeReport.Binding
