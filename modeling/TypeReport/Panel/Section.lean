import TypeReport.Diagnostic.Basic
import TypeReport.Panel.Table
import TypeReport.Text.Lines

/-! # Sections

What a diagnostic shows is a list of sections in display order: the echoed source,
the text of the error, and for a mismatch its notice and a table with one row per
frame.  Source and types alike are shown as excerpts. -/

namespace TypeReport

/-- A part of what a diagnostic shows: echoed source, free text, text under a title, or pairs of
excerpts side by side. -/
inductive Section where
  | excerpt (e : Excerpt)
  | text (s : Text)
  | notice (title body : Text)
  | columns (leftTitle rightTitle : Text) (rows : List (Excerpt × Excerpt))
deriving DecidableEq

/-- The lines of a section, with carets under emphasised parts or without. -/
def Section.lines (carets : Bool) : Section → List Line
  | .excerpt e => e.lines carets
  | .text s => s.lines.map Line.plain
  | .notice title body =>
      [⟨.error, title ++ [':']⟩] ::
        body.lines.map fun line => [⟨.plain, "  ".toList⟩, ⟨.error, line⟩]
  | .columns leftTitle rightTitle rows =>
      Table.lines ⟨leftTitle, rightTitle, rows.map fun (l, r) => (l.lines carets, r.lines carets)⟩

namespace Diagnostic

/-- The echoed source, in which the marker counts from the start of the last line. -/
def sourceExcerpt? (e : Diagnostic) : Option Excerpt :=
  e.snippet.head?.map fun first =>
    let before : Text := e.snippet.dropLast.flatMap fun line => line.text ++ ['\n']
    { startLine := first.number
      text := Text.joinLines (e.snippet.map (·.text))
      emphasis := e.marker.map (·.shift before.size)
      focusLine := e.focusLine? }

/-- The row of a frame, in a table whose columns start at the given lines. -/
def frameRow (leftLine rightLine : Nat) (f : Frame) : Excerpt × Excerpt :=
  (⟨leftLine, f.implementation, f.implementationMark, none⟩,
   ⟨rightLine, f.interface, f.interfaceMark, none⟩)

/-- The notice and the table of a backtrace. -/
def backtraceSections (leftTitle rightTitle : Text) (leftLine rightLine : Nat) (b : Backtrace) :
    List Section :=
  (b.notice.map (Section.notice "Additional error".toList)).toList ++
    if b.frames.isEmpty then []
    else [.columns leftTitle rightTitle (b.frames.map (frameRow leftLine rightLine))]

/-- The title of a column, with the place of what the column shows. -/
def columnTitle (title : Text) : Option Location → Text
  | none => title
  | some l => title ++ " (".toList ++ l.place ++ [')']

/-- The number of the first line of a column. -/
def columnLine (l : Option Location) : Nat := l.elim 1 (·.startLine)

/-- The sections about the kind of an error. -/
def kindSections : Kind → List Section
  | .plain text => [.text text]
  | .expressionMismatch summary b =>
      .text summary :: backtraceSections "actual type".toList "expected type".toList 1 1 b
  | .interfaceMismatch summary actual expected b =>
      .text summary ::
        backtraceSections (columnTitle "implementation".toList actual)
          (columnTitle "expected by interface".toList expected)
          (columnLine actual) (columnLine expected) b

/-- What a diagnostic shows, in display order. -/
def sections (e : Diagnostic) : List Section :=
  (e.sourceExcerpt?.map Section.excerpt).toList ++ kindSections e.kind

end Diagnostic
end TypeReport
