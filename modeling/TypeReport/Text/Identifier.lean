import TypeReport.Text.Alphabetic
import TypeReport.Text.Numeric
import TypeReport.Text.Basic

/-! # Identifiers

The characters of an identifier are the alphabetic and numeric ones, the
underscore and the prime (`isIdentifierChar_iff`).  An identifier consists of such
characters and starts with an alphabetic one or an underscore. -/

namespace TypeReport.Text

/-- Whether a character can be part of an identifier. -/
def isIdentifierChar (c : Char) : Bool :=
  isAlphabetic c || isNumeric c || c == '_' || c == '\''

theorem isIdentifierChar_iff {c : Char} : isIdentifierChar c = true ↔
    (∃ p ∈ alphabeticRanges ++ numericRanges, p.1 ≤ c.toNat ∧ c.toNat ≤ p.2) ∨
      c = '_' ∨ c = '\'' := by
  simp only [isIdentifierChar, Bool.or_eq_true, isAlphabetic_iff, isNumeric_iff, beq_iff_eq,
    List.mem_append, or_and_right, exists_or, or_assoc]

def isIdentifier : Text → Bool
  | [] => false
  | c :: s => (isAlphabetic c || c == '_') && (c :: s).all isIdentifierChar

/-- A combining letter is alphabetic, other combining marks are not. -/
example : isIdentifier ['\u0363'] = true ∧ isIdentifier ['\u0301'] = false := by decide

/-- A numeral can be part of an identifier and cannot start it. -/
example : isIdentifier "x1'".toList = true ∧ isIdentifier "1x".toList = false := by decide

end TypeReport.Text
