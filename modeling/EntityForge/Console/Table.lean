import EntityForge.Text.Cells

/-! # Tables and panels

A table has a title, a row of headings and rows of cells; each column is as wide as its widest cell.
A panel puts lines into a box with a title. Both are drawn with the characters of a frame.
-/

namespace EntityForge.Console

/-- A line of a frame: its left end, what fills it, what stands between columns, its right end. -/
structure Rule where
  left : Char
  fill : Char
  between : Char
  right : Char

/-- The frame of a table. -/
structure Frame where
  top : Rule
  row : Rule
  divider : Rule
  bottom : Rule

namespace Frame

/-- A frame of lines with rounded corners. -/
def rounded : Frame where
  top := ⟨'╭', '─', '┬', '╮'⟩
  row := ⟨'│', ' ', '│', '│'⟩
  divider := ⟨'├', '─', '┼', '┤'⟩
  bottom := ⟨'╰', '─', '┴', '╯'⟩

/-- A frame of blanks with one line below the headings. -/
def light : Frame where
  top := ⟨' ', ' ', ' ', ' '⟩
  row := ⟨' ', ' ', ' ', ' '⟩
  divider := ⟨' ', '─', '─', ' '⟩
  bottom := ⟨' ', ' ', ' ', ' '⟩

end Frame

/-- A character over and over. -/
def bar (c : Char) (n : Nat) : Text := List.replicate n (.char c)

/-- A text in the middle of `width` columns. -/
def centred (c : Char) (width : Nat) (t : Text) : Text :=
  let excess := width - t.cells
  bar c (excess / 2) ++ t ++ bar c (excess - excess / 2)

/-- Cells between the marks of a line. -/
def Rule.line (rule : Rule) (cells : List Text) : Text :=
  .char rule.left :: Text.join [.char rule.between] cells ++ [.char rule.right]

/-- A line without cells across columns of these widths. -/
def Rule.blank (rule : Rule) (widths : List Nat) : Text :=
  rule.line (widths.map fun width => bar rule.fill (width + 2))

/-- A line of cells in columns of these widths, with a space on either side of each. -/
def Rule.filled (rule : Rule) (widths : List Nat) (cells : List Text) : Text :=
  rule.line (List.zipWith
    (fun width (cell : Text) => .char ' ' :: cell ++ bar ' ' (width - cell.cells + 1))
    widths cells)

/-- A table: its title, its headings and its rows. -/
structure Table where
  frame : Frame
  title : Text
  headings : List Text
  rows : List (List Text)

namespace Table

/-- The widths of the columns. -/
def widths (t : Table) : List Nat :=
  t.rows.foldl (fun widths row => List.zipWith max widths (row.map Text.cells))
    (t.headings.map Text.cells)

/-- The lines of a table. -/
def lines (t : Table) : List Text :=
  let widths := t.widths
  let width := (t.frame.top.blank widths).cells
  [centred ' ' width t.title, t.frame.top.blank widths, t.frame.row.filled widths t.headings,
    t.frame.divider.blank widths] ++ t.rows.map (t.frame.row.filled widths) ++
    [t.frame.bottom.blank widths]

end Table

/-- The lines of a panel of that width. -/
def panelLines (width : Nat) (title : Text) (content : List Text) : List Text :=
  let frame := Frame.rounded
  let title := centred frame.top.fill (width - 4) (text " " ++ title ++ text " ")
  [frame.top.line [bar frame.top.fill 1 ++ title ++ bar frame.top.fill 1]] ++
    content.map (fun line => frame.row.filled [width - 4] [line]) ++
    [frame.bottom.line [bar frame.bottom.fill (width - 2)]]

end EntityForge.Console
