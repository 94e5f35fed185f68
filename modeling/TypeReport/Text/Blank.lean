import TypeReport.Text.Basic
import TypeReport.Text.Ranges

/-! # Blank characters

The blank characters are the twenty-five with the White_Space property of
Unicode.  `trimStart`, `trimEnd` and `trim` remove blanks at the ends of a text,
`words` are the pieces between blanks, and a text is blank when nothing else is
in it. -/

namespace TypeReport.Text

/-- The characters with the White_Space property. -/
def blankRanges : Ranges :=
  [(0x9, 0xd), (0x20, 0x20), (0x85, 0x85), (0xa0, 0xa0), (0x1680, 0x1680), (0x2000, 0x200a),
   (0x2028, 0x2029), (0x202f, 0x202f), (0x205f, 0x205f), (0x3000, 0x3000)]

def isBlankChar (c : Char) : Bool := blankRanges.hasChar c

/-- Whether a text holds nothing but blanks. -/
def isBlank (s : Text) : Bool := s.all isBlankChar

def trimStart (s : Text) : Text := s.dropWhile isBlankChar

def trimEnd (s : Text) : Text := (s.reverse.dropWhile isBlankChar).reverse

/-- A text without its leading and trailing blanks. -/
def trim (s : Text) : Text := trimEnd (trimStart s)

/-- The maximal pieces of a text that hold no blank. -/
def words (s : Text) : List Text := (s.splitOnP isBlankChar).filter (· ≠ [])

theorem trimStart_eq_nil_iff (s : Text) : trimStart s = [] ↔ isBlank s = true := by
  induction s with
  | nil => simp [trimStart, isBlank]
  | cons c s ih =>
      by_cases h : isBlankChar c = true
      · rw [trimStart, List.dropWhile_cons_of_pos h, isBlank, List.all_cons, h, Bool.true_and]
        exact ih
      · simp [trimStart, isBlank, h]

theorem trimEnd_eq_nil_iff (s : Text) : trimEnd s = [] ↔ isBlank s = true := by
  rw [trimEnd, List.reverse_eq_nil_iff]
  exact (trimStart_eq_nil_iff s.reverse).trans (by rw [isBlank, isBlank, List.all_reverse])

theorem trim_eq_nil_iff (s : Text) : trim s = [] ↔ isBlank s = true := by
  rw [trim, trimEnd_eq_nil_iff]
  induction s with
  | nil => simp [trimStart]
  | cons c s ih =>
      by_cases h : isBlankChar c = true
      · simpa [trimStart, isBlank, h] using ih
      · simp [trimStart, isBlank, h]

example : words "  val \t x\u3000".toList = ["val".toList, ['x']] := by decide

end TypeReport.Text
