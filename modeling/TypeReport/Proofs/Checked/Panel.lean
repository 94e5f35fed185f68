import TypeReport.Proofs.Checked.Lines
import TypeReport.Report.Writer

/-! # Checked panels

A panel is put together from lines that carry their widths: a line of width zero stands behind
the bar of the border without a space.  Nothing is assumed of the events that are shown.
Sections and records are put together from texts, which cannot fail. -/

namespace TypeReport.Checked

section
variable (colours : Bool)

/-! ### Sections -/

def sectionLines : Section → Checked (List PaintedLine)
  | .excerpt e => excerptLines colours e
  | .text s => return s.lines.map PaintedLine.plain
  | .notice title body =>
      return ⟨Ink.error.paint colours (title ++ [':']), title.length + 1⟩ ::
        body.lines.map fun line =>
          ⟨"  ".toList ++ Ink.error.paint colours line, line.length + 2⟩
  | .columns leftTitle rightTitle rows => do
      let cells ← rows.mapM fun row => do
        return (← excerptLines colours row.1, ← excerptLines colours row.2)
      tableLines colours leftTitle rightTitle cells

/-- The lines of some sections, with an empty line between each two. -/
def panelBody (sections : List Section) : Checked (List PaintedLine) := do
  return [.plain []].intercalate (← sections.mapM (sectionLines colours))

theorem painted_notice (line : Text) :
    Line.painted colours [⟨.plain, "  ".toList⟩, ⟨.error, line⟩] =
      ⟨"  ".toList ++ Ink.error.paint colours line, line.length + 2⟩ := by
  rw [Line.painted_cons, Line.painted_singleton, Nat.add_comm line.length]
  rfl

theorem sectionLines_eq (s : Section) :
    sectionLines colours s = some ((s.lines (!colours)).map (Line.painted colours)) := by
  cases s with
  | excerpt e => exact excerptLines_eq colours e
  | text s =>
      have hplain : Line.painted colours ∘ Line.plain = PaintedLine.plain :=
        funext (Line.painted_plain colours)
      rw [Section.lines, List.map_map, hplain]
      rfl
  | notice title body =>
      have hline : (Line.painted colours ∘ fun line =>
          [⟨.plain, "  ".toList⟩, ⟨.error, line⟩]) = fun line =>
          ⟨"  ".toList ++ Ink.error.paint colours line, line.length + 2⟩ :=
        funext (painted_notice colours)
      rw [Section.lines, List.map_cons, Line.painted_singleton, List.map_map, hline,
        List.length_append]
      rfl
  | columns leftTitle rightTitle rows =>
      have hcells : (rows.mapM fun row : Excerpt × Excerpt => do
          return (← excerptLines colours row.1, ← excerptLines colours row.2)) =
          some ((rows.map fun row => (row.1.lines (!colours), row.2.lines (!colours))).map
            (paintedCell colours)) := by
        rw [List.map_map]
        refine mapM_eq_some_map fun row _ => ?_
        rw [excerptLines_eq, excerptLines_eq]
        rfl
      rw [sectionLines, hcells]
      exact tableLines_eq colours
        ⟨leftTitle, rightTitle, rows.map fun row =>
          (row.1.lines (!colours), row.2.lines (!colours))⟩

theorem panelBody_eq (sections : List Section) :
    panelBody colours sections =
      some ((Panel.body (!colours) sections).map (Line.painted colours)) := by
  rw [panelBody, mapM_eq_some_map fun s _ => sectionLines_eq colours s, Panel.body,
    Panel.map_intercalate, List.map_map]
  rfl

/-! ### Panels -/

/-- A line inside the border, as it is written. -/
def framed (l : PaintedLine) : Text :=
  if l.width = 0 then Ink.dim.paint colours ['│']
  else Ink.dim.paint colours ['│'] ++ ' ' :: l.text

/-- A panel of a width with a title, as it is written.  Behind a title that takes up all the width
there is no border, so the subtraction there ends at zero. -/
def panelLines (width : Nat) (title : Text) (body : List PaintedLine) : Checked (List Text) := do
  let top := Ink.dim.paint colours "╭─ ".toList ++ Ink.title.paint colours title ++
    ' ' :: Ink.dim.paint colours (List.replicate (width - (title.length + 4)) '─')
  let bottom := Ink.dim.paint colours ('╰' :: List.replicate (← sub width 1) '─')
  return top :: body.map (framed colours) ++ [bottom]

/-- Whether there is a space behind the bar does not depend on the paint. -/
theorem framed_eq (l : Line) :
    framed colours (l.painted colours) = (Panel.framed l).paint colours := by
  have hwidth : (l.painted colours).width = l.width := rfl
  unfold framed Panel.framed
  rw [hwidth]
  by_cases h : l.width = 0
  · rw [if_pos h, if_pos h]
    exact (List.append_nil _).symm
  · rw [if_neg h, if_neg h]
    rfl

theorem panelLines_eq {width : Nat} (h : 1 ≤ width) (title : Text) (body : List Line) :
    panelLines colours width title (body.map (Line.painted colours)) =
      some ((Panel.lines width title body).map (Line.paint colours)) := by
  have hframed : framed colours ∘ Line.painted colours = Line.paint colours ∘ Panel.framed :=
    funext (framed_eq colours)
  have htop : Line.paint colours (Panel.top width title) =
      Ink.dim.paint colours "╭─ ".toList ++ Ink.title.paint colours title ++
        ' ' :: Ink.dim.paint colours (List.replicate (width - (title.length + 4)) '─') := by
    simp [Panel.top, Line.paint, Ink.paint, Piece.paint, Ink.code?]
  have hbottom : Line.paint colours (Panel.bottom width) =
      Ink.dim.paint colours ('╰' :: List.replicate (width - 1) '─') := List.append_nil _
  rw [panelLines, sub_eq h, List.map_map, hframed, Panel.lines, List.map_append, List.map_cons,
    List.map_singleton, List.map_map, htop, hbottom]
  rfl

end

/-! ### Writers -/

def bar (total completed : Nat) : Checked Text := do
  let filled ←
    if total = 0 then some Terminal.barWidth
    else div (min completed total * Terminal.barWidth) total
  let left ← sub Terminal.barWidth filled
  return '[' :: List.replicate filled '#' ++ List.replicate left '-' ++ "] ".toList ++
    Text.ofNat completed ++ '/' :: Text.ofNat total

/-- The lines that show an event on a terminal, as they are written. -/
def terminalLines (t : Terminal) : Event → Checked (List Text)
  | .progress total completed => do return [Ink.dim.paint t.colours (← bar total completed)]
  | .diagnostic index e => do
      panelLines t.colours t.width (e.title index) (← panelBody t.colours e.sections)
  | e => return (t.lines e).map (Line.paint t.colours)

def step : Writer → Event → Checked (Text × Writer)
  | .terminal t, e => do
      let lines ← terminalLines t e
      return (lines.flatMap (· ++ ['\n']), .terminal t)
  | w, e => return w.step e

def write (w : Writer) : List Event → Checked Text
  | [] => return []
  | e :: es => do
      let (text, w) ← step w e
      return text ++ (← write w es)

theorem bar_eq (total completed : Nat) :
    bar total completed = some (Terminal.bar total completed) := by
  by_cases htotal : total = 0
  · subst htotal
    rfl
  · have hfilled : min completed total * Terminal.barWidth / total ≤ Terminal.barWidth := by
      refine Nat.div_le_of_le_mul ?_
      exact Nat.mul_le_mul_right _ (Nat.min_le_right _ _)
    unfold bar Terminal.bar
    rw [if_neg htotal, if_neg htotal, div_eq htotal]
    simp only [Option.bind_eq_bind, Option.bind_some, sub_eq hfilled]
    rfl

theorem terminalLines_eq (t : Terminal) (e : Event) :
    terminalLines t e = some ((t.lines e).map (Line.paint t.colours)) := by
  cases e with
  | progress total completed =>
      have hpaint : Line.paint t.colours [⟨.dim, Terminal.bar total completed⟩] =
          Ink.dim.paint t.colours (Terminal.bar total completed) := List.append_nil _
      rw [terminalLines, bar_eq, Terminal.lines, List.map_singleton, hpaint]
      rfl
  | diagnostic index e =>
      have hwidth : 1 ≤ t.width := Nat.le_trans (by decide) t.wide
      rw [terminalLines, panelBody_eq]
      exact panelLines_eq t.colours hwidth _ _
  | start total => rfl
  | skipped s => rfl
  | finish total failed => rfl
  | flush => rfl

theorem step_eq (w : Writer) (e : Event) : step w e = some (w.step e) := by
  cases w with
  | terminal t =>
      rw [step, terminalLines_eq]
      simp only [Option.bind_eq_bind, Option.bind_some, List.flatMap_map]
      rfl
  | json fresh => rfl

theorem write_eq (w : Writer) (es : List Event) : write w es = some (w.write es) := by
  induction es generalizing w with
  | nil => rfl
  | cons e es ih =>
      rw [write, step_eq]
      simp only [Option.bind_eq_bind, Option.bind_some, ih]
      rfl

end TypeReport.Checked
