import DdlCatalog.Text.Width
import DdlCatalog.Text.CaseMap
/-!
Tables of rows and columns, drawn for a terminal with light box-drawing lines or written as
Markdown.

On a terminal every column is as wide as its widest line, headers are upper-case, and a cell
with a line break takes several lines of its row. A cell whose characters outnumber the width
of its column is wrapped again at that width, word by word. Columns holding only numbers are
aligned right, the others left. In Markdown the cells are written as they are, with `|` escaped
and line breaks turned into `<br/>`; the alignment row marks number columns.
-/

namespace DdlCatalog.Render

open DdlCatalog.Text

/-- A table cell: text, or a number, which aligns right. -/
inductive Cell where
  | text (s : String)
  | number (n : Nat)
deriving Repr, Inhabited

/-- The text of a cell: tabs become four spaces and carriage returns are dropped. -/
def Cell.content : Cell → String
  | .text s => String.join (s.toList.filterMap fun c =>
      if c == '\t' then some "    " else if c == '\r' then none else some c.toString)
  | .number n => toString n

/-- Whether the cell holds a number. -/
def Cell.isNumber : Cell → Bool
  | .number _ => true
  | .text _ => false

/-- A table: its header and its rows. -/
structure Grid where
  header : List String
  rows : List (List Cell)
deriving Repr, Inhabited

/-- Whether column `i` holds numbers only; a table without rows counts as all numbers. -/
def Grid.numeric (g : Grid) (i : Nat) : Bool :=
  g.rows.all fun row => match row[i]? with
    | some c => c.isNumber
    | none => true

/-- The width of a cell's widest line. -/
def longestLine (s : String) : Nat :=
  (s.splitOn "\n").foldl (fun m l => max m (textWidth l)) 0

/-- Whether a character separates words. -/
def isSpaceChar (c : Char) : Bool :=
  c == ' ' || c == '\t' || c == '\n' || c == '\x0b' || c == '\x0c' || c == '\r' ||
    c.toNat == 0x85 || c.toNat == 0xA0 || c.toNat == 0x1680 ||
    (0x2000 ≤ c.toNat && c.toNat ≤ 0x200A) || c.toNat == 0x2028 || c.toNat == 0x2029 ||
    c.toNat == 0x202F || c.toNat == 0x205F || c.toNat == 0x3000

/-- The words of a text: its runs of non-space characters. -/
def words (s : String) : List String :=
  ((s.toList.splitBy fun a b => isSpaceChar a == isSpaceChar b).filter fun run =>
    !run.all isSpaceChar).map String.ofList

/-- The state of wrapping: the text so far and the width of its last line. -/
structure Wrap where
  out : String
  column : Nat

/-- Ends the current line, padding it to the full width. -/
def Wrap.breakLine (w : Wrap) (width : Nat) : Wrap :=
  ⟨w.out.pushn ' ' (width - w.column) ++ "\n", 0⟩

/-- Adds a word character by character, breaking lines where it does not fit. -/
def Wrap.addChars (width : Nat) (w : Wrap) (word : List Char) : Wrap :=
  word.foldl (fun w c =>
    let cw := charWidth c
    let w := if w.column + cw > width then w.breakLine width else w
    ⟨w.out.push c, w.column + cw⟩) w

/-- Wraps one paragraph at `width` columns, word by word. -/
def wrapParagraph (width : Nat) (paragraph : String) : String :=
  let ws := words paragraph
  let n := ws.length
  let step (w : Wrap) (p : String × Nat) : Wrap :=
    let (word, i) := p
    let w := if w.column > 0 then ⟨w.out.push ' ', w.column + 1⟩ else w
    let ww := textWidth word
    let w := if w.column + ww ≤ width then ⟨w.out ++ word, w.column + ww⟩
      else w.addChars width word.toList
    if w.column == width && i + 1 < n then w.breakLine width else w
  (ws.zipIdx.foldl step ⟨"", 0⟩).out

/-- A cell's text fitted to a column `width` wide: kept when it has no more characters than
that, else wrapped paragraph by paragraph. -/
def wrapCell (width : Nat) (s : String) : String :=
  if width == 0 then ""
  else if s.length ≤ width then s
  else "\n\n".intercalate ((s.splitOn "\n\n").map (wrapParagraph width))

/-- A line of a cell aligned in a column `width` wide: to the left with trailing spaces
dropped, or to the right with leading spaces dropped. -/
def alignLine (right : Bool) (width : Nat) (s : String) : String :=
  if right then
    let t := String.ofList (s.toList.dropWhile (· == ' '))
    "".pushn ' ' (width - textWidth t) ++ t
  else
    let t := String.ofList (s.toList.reverse.dropWhile (· == ' ')).reverse
    t.pushn ' ' (width - textWidth t)

/-- The column widths of a table: the widest line of each column, header included. -/
def Grid.widths (g : Grid) : List Nat :=
  g.header.zipIdx.map fun (h, i) =>
    g.rows.foldl (fun m row => max m (longestLine ((row[i]?.map Cell.content).getD ""))) (textWidth h)

/-- A horizontal rule of the light box style. -/
def rule (widths : List Nat) (left middle right : String) : String :=
  left ++ middle.intercalate (widths.map fun w => "".pushn '─' (w + 2)) ++ right

/-- The lines of one row: each cell wrapped to its column and split at line breaks, shorter
cells padded with empty lines below. -/
def rowLines (widths : List Nat) (right : List Bool) (cells : List String) : List String :=
  let split := (cells.zip widths).map fun (c, w) => (wrapCell w c).splitOn "\n"
  let height := split.foldl (fun m ls => max m ls.length) 1
  (List.range height).map fun k =>
    let parts := ((split.zip widths).zip right).map fun ((ls, w), r) =>
      " " ++ alignLine r w (ls.getD k "") ++ " "
    "│" ++ "│".intercalate parts ++ "│"

/-- A table drawn with light lines, followed by a line break. -/
def Grid.light (g : Grid) : String :=
  let widths := g.widths
  let right := (List.range g.header.length).map g.numeric
  let header := rowLines widths right (g.header.map upper)
  let body := g.rows.flatMap fun row =>
    rowLines widths right ((List.range g.header.length).map fun i =>
      (row[i]?.map Cell.content).getD "")
  "\n".intercalate ([rule widths "┌" "┬" "┐"] ++ header ++ [rule widths "├" "┼" "┤"] ++ body ++
    [rule widths "└" "┴" "┘"]) ++ "\n"

/-- A cell as Markdown writes it. -/
def markdownCell (s : String) : String :=
  String.join (s.toList.map fun c => if c == '|' then "\\|" else if c == '\n' then "<br/>" else c.toString)

/-- A table as Markdown, followed by a line break. -/
def Grid.markdown (g : Grid) : String :=
  let n := g.header.length
  let line (cells : List String) : String :=
    "|" ++ String.join (cells.map fun c => " " ++ markdownCell c ++ " |")
  let marks := "|" ++ String.join ((List.range n).map fun i =>
    (if g.numeric i then " ---:" else " --- ") ++ "|")
  let body := g.rows.map fun row =>
    line ((List.range n).map fun i => (row[i]?.map Cell.content).getD "")
  "\n".intercalate ([line g.header, marks] ++ body) ++ "\n"

end DdlCatalog.Render
