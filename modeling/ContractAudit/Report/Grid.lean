import ContractAudit.Report.Wrap

/-!
# Grids

A grid is a titled table of text cells in a frame: a heavy one around the
heads, a light one around the rows, and a light line between sections.
-/

namespace ContractAudit
namespace Report

/-- A column of a grid. -/
structure Column where
  head : String
  align : Align := .left
  /-- The width of the cells, or `none` for as much as the cells need. -/
  fixed : Option Nat := none

/-- A titled table; each section is a list of rows, each row a list of cells. -/
structure Grid where
  title : String
  columns : List Column
  sections : List (List (List (List Char)))

/-- The pieces of a horizontal line or of a row. -/
structure Edge where
  left : Char
  middle : Char
  right : Char

namespace Grid

/-- The most cells of a line of a grid. -/
def lineLimit : Nat := 100

/-- All rows of a grid. -/
def rows (g : Grid) : List (List (List Char)) :=
  g.sections.flatten

/-- The width that the cells of a column need. -/
def needed (g : Grid) (index : Nat) (c : Column) : Nat :=
  match c.fixed with
  | some w => w
  | none =>
    (g.rows.map fun r => measure (r.getD index [])).foldl max (measure c.head.toList)

/-- Cells of a line that are not the text of a cell: a space on each side of it
and the lines between the columns. -/
def overhead (g : Grid) : Nat :=
  3 * g.columns.length + 1

/-- The cells of a line with columns of some widths. -/
def lineWidth (g : Grid) (ws : List Nat) : Nat :=
  ws.foldl (· + ·) g.overhead

/-- The widths of the columns.  Where a line would be too long, the first column
without a fixed width gives way. -/
def widths (g : Grid) : List Nat :=
  let wanted := (g.columns.zipIdx).map fun (c, i) => g.needed i c
  let excess := g.lineWidth wanted - lineLimit
  let flexible := g.columns.findIdx fun c => c.fixed.isNone
  wanted.modify flexible fun w => w - excess

/-- A horizontal line. -/
def rule (e : Edge) (stroke : Char) (ws : List Nat) : List Char :=
  let bars := ws.map fun w => List.replicate (w + 2) stroke
  e.left :: ([e.middle].intercalate bars ++ [e.right])

/-- The lines of one row, whose cells are filled up to the same height. -/
def rowLines (e : Edge) (cells : List (Align × Nat × List Char)) : List (List Char) :=
  let blocks := cells.map fun (a, w, text) => (w, layout a w text)
  let height := (blocks.map fun b => b.2.length).foldl max 0
  (List.range height).map fun i =>
    let parts := blocks.map fun (w, lines) => ' ' :: (lines.getD i (spaces w) ++ [' '])
    e.left :: ([e.middle].intercalate parts ++ [e.right])

/-- The row of the column heads. -/
def headLines (g : Grid) (ws : List Nat) : List (List Char) :=
  rowLines ⟨'┃', '┃', '┃'⟩ ((g.columns.zip ws).map fun (c, w) => (c.align, w, c.head.toList))

/-- The lines of a section. -/
def sectionLines (g : Grid) (ws : List Nat) (rows : List (List (List Char))) :
    List (List Char) :=
  rows.flatMap fun r =>
    rowLines ⟨'│', '│', '│'⟩ (((g.columns.zip ws).zip r).map fun ((c, w), t) => (c.align, w, t))

/-- All lines of a grid. -/
def lines (g : Grid) : List (List Char) :=
  let ws := g.widths
  let full := g.lineWidth ws
  let body := (g.sections.filter fun s => !s.isEmpty).map (g.sectionLines ws)
  align .center full g.title.toList
    :: rule ⟨'┏', '┳', '┓'⟩ '━' ws
    :: (g.headLines ws
      ++ rule ⟨'┡', '╇', '┩'⟩ '━' ws
      :: ([rule ⟨'├', '┼', '┤'⟩ '─' ws].intercalate body
      ++ [rule ⟨'└', '┴', '┘'⟩ '─' ws]))

/-- The text of a grid, each line with a line feed. -/
def text (g : Grid) : String :=
  String.ofList (g.lines.flatMap fun l => l ++ ['\n'])

end Grid

end Report
end ContractAudit
