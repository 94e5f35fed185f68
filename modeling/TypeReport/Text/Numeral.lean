import TypeReport.Text.Search

/-! # Numerals

Line numbers and character positions are printed in decimal and are below
`2 ^ 32`.  Reading takes an optional plus sign and at least one digit, leading
zeros included; printing gives the shortest numeral, and reading gives the number
back (`readNat?_ofNat`). -/

namespace TypeReport.Text

/-- The shortest decimal numeral of a number. -/
def ofNat (n : Nat) : Text := Nat.toDigits 10 n

/-- The number that a decimal numeral stands for, if it is below `2 ^ 32`. -/
def readNat? (s : Text) : Option Nat :=
  let digits := (s.after? ['+']).getD s
  let n := Nat.ofDigitChars 10 digits 0
  if digits ≠ [] ∧ digits.all Char.isDigit = true ∧ n < UInt32.size then some n else none

theorem readNat?_lt {s : Text} {n : Nat} (h : readNat? s = some n) : n < UInt32.size := by
  simp only [readNat?] at h
  split at h
  · next hc => cases h; exact hc.2.2
  · cases h

theorem all_isDigit_ofNat (n : Nat) : (ofNat n).all Char.isDigit = true :=
  List.all_eq_true.2 fun _ h => Nat.isDigit_of_mem_toDigits (by decide) (by decide) h

theorem ofNat_ne_nil (n : Nat) : ofNat n ≠ [] := Nat.toDigits_ne_nil

theorem readNat?_ofNat {n : Nat} (h : n < UInt32.size) : readNat? (ofNat n) = some n := by
  have hs : (ofNat n).after? ['+'] = none := by
    cases ha : (ofNat n).after? ['+'] with
    | none => rfl
    | some r =>
        have := all_isDigit_ofNat n
        rw [after?_eq_some_iff.1 ha] at this
        simp at this
  have hd : Nat.ofDigitChars 10 (ofNat n) 0 = n :=
    Nat.ofDigitChars_toDigits (by decide) (by decide)
  simp only [readNat?, hs, Option.getD_none, hd]
  rw [if_pos ⟨ofNat_ne_nil n, all_isDigit_ofNat n, h⟩]

example : readNat? "+007".toList = some 7 := by decide

example : readNat? "4294967295".toList = some 4294967295 := by decide

example : readNat? "4294967296".toList = none ∧ readNat? "+".toList = none := by decide

end TypeReport.Text
