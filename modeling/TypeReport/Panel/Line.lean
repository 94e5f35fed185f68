import TypeReport.Text.Basic

/-! # Painted lines

A line for the terminal is a list of pieces, each with an ink.  Layout works on
pieces and knows nothing of colours: the width of a line is the number of its
characters.  Only painting looks at the inks, and it puts an escape sequence
around each piece that is neither empty nor plain.  Without colours a line is just
its text (`paint_false`). -/

namespace TypeReport

/-- What a piece of a line is painted for.  Plain text is not painted, `bold` is for headings and
what is in focus, and `dim` for borders and gutters. -/
inductive Ink where
  | plain
  | error
  | warning
  | title
  | bold
  | dim
  | emphasis
deriving DecidableEq

/-- The parameters of the escape sequence that selects an ink. -/
def Ink.code? : Ink → Option Text
  | plain => none
  | error => some "1;31".toList
  | warning => some "1;33".toList
  | title => some "1;36".toList
  | bold => some "1".toList
  | dim => some "2".toList
  | emphasis => some "48;5;89".toList

/-- The escape sequence with the given parameters. -/
def escape (code : Text) : Text := '\x1b' :: '[' :: code ++ ['m']

/-- A piece of a line. -/
structure Piece where
  ink : Ink
  text : Text
deriving DecidableEq

/-- A piece as it is written, with colours or without. -/
def Piece.paint (colours : Bool) (p : Piece) : Text :=
  match p.ink.code? with
  | some code =>
      if colours && p.text ≠ [] then escape code ++ p.text ++ escape ['0'] else p.text
  | none => p.text

/-- A text without its escape sequences.  `inside` tells whether the text starts in the middle of
one, which then runs to the next `m`. -/
def unpaint (inside : Bool) : Text → Text
  | [] => []
  | c :: s =>
      if inside then unpaint (c ≠ 'm') s
      else if c = '\x1b' ∧ s.head? = some '[' then unpaint true s
      else c :: unpaint false s

/-- A line for the terminal. -/
abbrev Line := List Piece

namespace Line

def plain (s : Text) : Line := [⟨.plain, s⟩]

def text (l : Line) : Text := l.flatMap (·.text)

/-- Number of characters in a line. -/
def width (l : Line) : Nat := l.text.length

/-- A line as it is written, with colours or without. -/
def paint (colours : Bool) (l : Line) : Text := l.flatMap (·.paint colours)

/-- A line filled with spaces up to a width. -/
def fill (n : Nat) (l : Line) : Line := l ++ plain (List.replicate (n - l.width) ' ')

theorem paint_false (l : Line) : paint false l = l.text := by
  unfold paint text
  congr 1
  funext p
  unfold Piece.paint
  split <;> simp

example : paint true [⟨.dim, ['a']⟩, ⟨.dim, []⟩, ⟨.plain, ['b']⟩] = "\x1b[2ma\x1b[0mb".toList := by
  decide

example : unpaint false "\x1b[2ma\x1b[0mb".toList = "ab".toList := by decide

end Line
end TypeReport
