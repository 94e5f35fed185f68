import TypeReport.Panel.Section

/-! # Panels

A panel shows the sections of a diagnostic one below the other, with an empty line
between each two, inside a border with a title. -/

namespace TypeReport

namespace Panel

/-- The lines of some sections, with an empty line between each two. -/
def body (carets : Bool) (sections : List Section) : List Line :=
  [([] : Line)].intercalate (sections.map (·.lines carets))

/-- The border above a panel, which holds its title. -/
def top (width : Nat) (title : Text) : Line :=
  [⟨.dim, "╭─ ".toList⟩, ⟨.title, title⟩, ⟨.plain, [' ']⟩,
   ⟨.dim, List.replicate (width - (title.length + 4)) '─'⟩]

/-- The border below a panel. -/
def bottom (width : Nat) : Line := [⟨.dim, '╰' :: List.replicate (width - 1) '─'⟩]

/-- A line inside the border. -/
def framed (l : Line) : Line :=
  ⟨.dim, ['│']⟩ :: if l.width = 0 then [] else ⟨.plain, [' ']⟩ :: l

/-- A panel of a width with a title. -/
def lines (width : Nat) (title : Text) (body : List Line) : List Line :=
  top width title :: body.map framed ++ [bottom width]

end Panel
end TypeReport
