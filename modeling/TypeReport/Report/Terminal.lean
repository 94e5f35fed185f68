import TypeReport.Panel.Basic
import TypeReport.Report.Event

/-! # The terminal

On a terminal each diagnostic is a panel and each skipped block a warning.  The
lines of an event do not depend on colours, except that carets take the place of
the emphasis ink; colours only decide how the lines are painted. -/

namespace TypeReport

/-- When to use colours; `auto` is for terminals only. -/
inductive ColourMode where
  | auto
  | always
  | never
deriving DecidableEq

/-- Whether to use colours, given whether the output is a terminal. -/
def ColourMode.useColours : ColourMode → Bool → Bool
  | auto, isTerminal => isTerminal
  | always, _ => true
  | never, _ => false

/-- How to show events to people: whether lines are painted, and how wide a panel is.  A panel has
room for its border. -/
structure Terminal where
  colours : Bool
  width : Nat := 80
  wide : 40 ≤ width := by decide

namespace Terminal

/-- A terminal with panels of the given width, or the least that is allowed. -/
def withWidth (colours : Bool) (width : Nat) : Terminal where
  colours := colours
  width := max 40 width
  wide := Nat.le_max_left ..

/-- The ending of a noun that is counted. -/
def plural (n : Nat) : Text := if n = 1 then [] else ['s']

/-- Number of steps in the progress bar. -/
def barWidth : Nat := 30

def bar (total completed : Nat) : Text :=
  let filled := if total = 0 then barWidth else min completed total * barWidth / total
  '[' :: List.replicate filled '#' ++ List.replicate (barWidth - filled) '-' ++ "] ".toList ++
    Text.ofNat completed ++ '/' :: Text.ofNat total

def warning (s : Text) : Line := [⟨.warning, "warning".toList⟩, ⟨.plain, s⟩]

/-- The place of a skipped block, as far as it is known. -/
def skippedPlace : Option Location → Text
  | none => []
  | some l => " (".toList ++ l.place ++ [')']

/-- The lines that show an event. -/
def lines (t : Terminal) : Event → List Line
  | .start total =>
      [[⟨.bold, "Found ".toList ++ Text.ofNat total ++ " error".toList ++ plural total⟩]]
  | .progress total completed => [[⟨.dim, bar total completed⟩]]
  | .diagnostic index e =>
      Panel.lines t.width (e.title index) (Panel.body (!t.colours) e.sections)
  | .skipped s =>
      [warning (": block #".toList ++ Text.ofNat (s.index + 1) ++ skippedPlace s.location ++
        " skipped: ".toList ++ s.failure.message)]
  | .finish total failed =>
      if failed = 0 then []
      else
        [warning (": ".toList ++ Text.ofNat failed ++ " of ".toList ++ Text.ofNat total ++
          " block".toList ++ plural total ++ " could not be parsed".toList)]
  | .flush => []

/-- What is written for an event. -/
def write (t : Terminal) (e : Event) : Text :=
  (t.lines e).flatMap fun l => l.paint t.colours ++ ['\n']

example : bar 7 3 = "[############------------------] 3/7".toList := by decide

end Terminal
end TypeReport
