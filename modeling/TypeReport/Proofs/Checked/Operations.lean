import TypeReport.Proofs.MapM
import TypeReport.Proofs.Span

/-! # Operations that can fail

Some operations have a result for some of their arguments only.  A text can be cut at the
boundaries of its characters, a list at a place within it, and a list has an item at such
a place; a number can be taken from one that is not less, and division is by a number that
is not zero.  A checked computation is put together from such operations and has no result
as soon as one of them has none.

For a program that takes texts apart by arithmetic on offsets, `X` in this namespace is
the checked computation and `X_eq` says that it always has a result, the one that the
library gives without checks. -/

namespace TypeReport

/-- The result of a computation, unless one of its operations fails. -/
abbrev Checked : Type → Type := Option

namespace Checked

variable {α β ε : Type}

/-! ### Numbers -/

/-- What is left of a number when another is taken from it. -/
def sub (m n : Nat) : Checked Nat := if n ≤ m then some (m - n) else none

/-- The quotient of two numbers. -/
def div (m n : Nat) : Checked Nat := if n = 0 then none else some (m / n)

theorem sub_eq {m n : Nat} (h : n ≤ m) : sub m n = some (m - n) := if_pos h

theorem div_eq {m n : Nat} (h : n ≠ 0) : div m n = some (m / n) := if_neg h

/-! ### Texts and bytes -/

/-- The part of a text before an offset. -/
def upTo (s : Text) (n : Nat) : Checked Text := (s.splitAt? n).map (·.1)

/-- The part of a text from an offset on. -/
def after (s : Text) (n : Nat) : Checked Text := (s.splitAt? n).map (·.2)

/-- The part of a text between two offsets. -/
def between (s : Text) (start stop : Nat) : Checked Text := (Span.mk start stop).slice? s

/-- The first bytes of some. -/
def take (bytes : List UInt8) (n : Nat) : Checked (List UInt8) :=
  if n ≤ bytes.length then some (bytes.take n) else none

theorem upTo_append (a b : Text) : upTo (a ++ b) a.size = some a := by
  rw [upTo, Text.splitAt?_eq_some_iff.2 ⟨rfl, rfl⟩, Option.map_some]

theorem after_append (a b : Text) : after (a ++ b) a.size = some b := by
  rw [after, Text.splitAt?_eq_some_iff.2 ⟨rfl, rfl⟩, Option.map_some]

theorem upTo_of_parts {s a m b : Text} (h : a ++ m ++ b = s) : upTo s a.size = some a := by
  rw [← h, List.append_assoc, upTo_append]

theorem after_of_parts {s a m b : Text} (h : a ++ m ++ b = s) :
    after s (a.size + m.size) = some b := by
  rw [← h, ← Text.size_append, after_append]

theorem between_append (a m b : Text) :
    between (a ++ m ++ b) a.size (a ++ m).size = some m := by
  rw [between, Span.slice?, Span.cut?_eq_some_iff.2 ⟨rfl, rfl, rfl⟩, Option.map_some]

/-- A text cannot be cut inside a character, nor behind its end. -/
example : upTo "é".toList 1 = none ∧ after "é".toList 3 = none := by decide

theorem take_eq {bytes : List UInt8} {n : Nat} (h : n ≤ bytes.length) :
    take bytes n = some (bytes.take n) := if_pos h

/-! ### Lists -/

/-- The items of a list from a place on. -/
def drop (xs : List α) (n : Nat) : Checked (List α) :=
  if n ≤ xs.length then some (xs.drop n) else none

/-- The items of a list before a place and those from it on. -/
def splitAt (xs : List α) (n : Nat) : Checked (List α × List α) :=
  if n ≤ xs.length then some (xs.take n, xs.drop n) else none

/-- The item of a list at a place. -/
def item (xs : List α) (n : Nat) : Checked α := xs[n]?

theorem drop_eq {xs : List α} {n : Nat} (h : n ≤ xs.length) : drop xs n = some (xs.drop n) :=
  if_pos h

theorem drop_append (xs ys : List α) : drop (xs ++ ys) xs.length = some ys := by
  rw [drop_eq (by simp), List.drop_left]

theorem splitAt_eq {xs : List α} {n : Nat} (h : n ≤ xs.length) :
    splitAt xs n = some (xs.take n, xs.drop n) := if_pos h

/-! ### Sequences -/

/-- Goes on with what has been read, unless it could not be read. -/
def andThen (x : Except ε α) (f : α → Checked (Except ε β)) : Checked (Except ε β) :=
  match x with
  | .ok a => f a
  | .error e => some (.error e)

theorem andThen_eq {f : α → Checked (Except ε β)} {g : α → Except ε β}
    (h : ∀ a, f a = some (g a)) (x : Except ε α) : andThen x f = some (x >>= g) := by
  cases x with
  | ok a => exact h a
  | error e => rfl

/-- Reads the items of a list one after the other, up to the first that cannot be read. -/
def readAll (f : α → Checked (Except ε β)) : List α → Checked (Except ε (List β))
  | [] => some (.ok [])
  | x :: xs => do
      andThen (← f x) fun y => do
        andThen (← readAll f xs) fun ys => some (.ok (y :: ys))

theorem readAll_eq {f : α → Checked (Except ε β)} {g : α → Except ε β} (h : ∀ a, f a = some (g a))
    (xs : List α) : readAll f xs = some (xs.mapM g) := by
  induction xs with
  | nil => rfl
  | cons x xs ih =>
      rw [readAll, h x, ih, List.mapM_cons]
      refine andThen_eq (fun y => ?_) _
      exact andThen_eq (fun ys => rfl) _

end Checked
end TypeReport
