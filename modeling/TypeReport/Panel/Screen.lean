import TypeReport.Panel.Line

/-! # What a terminal shows

A terminal reads a text character by character.  An escape sequence shows nothing and
says how the characters behind it are shown, up to the next one; what it says are its
parameters.  The characters that a text shows in an ink are those behind the escape
sequence of the ink. -/

namespace TypeReport

/-- A character that a terminal shows, with the parameters that it is shown under. -/
structure Cell where
  code : Text
  char : Char
deriving DecidableEq

/-- The parameters of a terminal that has been told nothing, or to forget all it was told. -/
def resetCode : Text := ['0']

/-- What a text shows that starts under the parameters `code`.  When it starts in the middle of an
escape sequence, `read` are the parameters of that as far as they have been read. -/
def cells (code : Text) (read : Option Text) : Text → List Cell
  | [] => []
  | c :: s =>
      match read with
      | some read => if c = 'm' then cells read none s else cells code (some (read ++ [c])) s
      | none =>
          match s with
          | '[' :: s =>
              if c = '\x1b' then cells code (some []) s
              else ⟨code, c⟩ :: cells code none ('[' :: s)
          | s => ⟨code, c⟩ :: cells code none s

/-- The parameters that a terminal shows an ink under. -/
def Ink.shownCode (ink : Ink) : Text := ink.code?.getD resetCode

/-- The characters that a text shows in an ink. -/
def inked (ink : Ink) (s : Text) : Text :=
  ((cells resetCode none s).filter (·.code = ink.shownCode)).map (·.char)

example : inked .dim "\x1b[2ma[\x1b[0mb\x1b[2mc".toList = "a[c".toList := by decide

end TypeReport
