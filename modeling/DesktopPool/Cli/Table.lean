import DesktopPool.Cli.Console

/-! Tables as the console draws them: the title centred over the table, a heavy frame around
the header row, a light one around the other rows, and each cell padded by one blank on either
side.

Widths: a column asks for its widest line (header included) and the two blanks. When the
columns together ask for more than the console leaves once the frame is drawn, the widest
columns give way first: they shrink, all by the same amount, down to the next widest, until
the excess is gone. When even that does not suffice every column gives up an equal share, and
each column is then measured again within its new width.

Cells: a cell's text wraps within its column, keeping a word wider than the column whole and
cutting it one cell short with an ellipsis; each line is set flush left, or flush right in a
column that asks for it. A row is as tall as its tallest cell; the header's cells sit at the
bottom of their row, the other cells at the top. -/
namespace DesktopPool.Console

structure Column where
  header : String
  right : Bool := false

def total (ns : List Nat) : Nat := ns.foldr (· + ·) 0

/-- The lines a cell's text spans as far as measuring goes: it breaks at line feeds, the
information separators, next-line and the Unicode line and paragraph separators. -/
def isLineBreak (c : Char) : Bool :=
  let n := c.toNat
  n == 10 || n == 28 || n == 29 || n == 30 || n == 0x85 || n == 0x2028 || n == 0x2029

def textWidth (t : String) : Nat :=
  let (done, last) := t.toList.foldl (fun (done, line) c =>
    if isLineBreak c then (line.reverse :: done, []) else (done, c :: line)) ([], [])
  ((last.reverse :: done).map Console.cellLen).foldr max 0

/-- The width a cell whose widest line is `w` cells asks for within `room` cells: the line and
a blank either side, at most `room`; a room under three cells is taken whole. -/
def cellWant (room w : Nat) : Nat :=
  if room < 1 then 0 else if room < 3 then room else min (min w room + 2) room

def columnWant (room : Nat) (lines : List Nat) : Nat :=
  if room < 1 then 0 else min ((lines.map (cellWant room)).foldr max 0) room

/-- `a / b` rounded to the nearest whole number, a tie going to the even one. -/
def roundHalfEven (a b : Nat) : Nat :=
  let q := a / b
  let r := a % b
  if 2 * r > b then q + 1 else if 2 * r < b then q else if q % 2 == 0 then q else q + 1

/-- `values` reduced by `excess` in all, shared in proportion to `ratios`, each share rounded
and at most the value's maximum; a value whose maximum is zero is left alone. -/
def ratioReduce (excess : Nat) (ratios maximums values : List Nat) : List Nat :=
  let ratios := (ratios.zip maximums).map fun (r, m) => if m == 0 then 0 else r
  let go := fun (acc : List Nat × Nat × Nat) (item : (Nat × Nat) × Nat) =>
    let (out, left, weight) := acc
    let ((ratio, most), value) := item
    if ratio > 0 && weight > 0 then
      let share := min most (roundHalfEven (ratio * left) weight)
      ((value - share) :: out, left - share, weight - ratio)
    else (value :: out, left, weight)
  if total ratios == 0 then values
  else (((ratios.zip maximums).zip values).foldl go ([], excess, total ratios)).1.reverse

/-- Widths shrunk to fit in `room`: the widest columns shrink towards the next widest, by no
more than the excess, until the widths fit or all columns are as wide. -/
def collapse (room : Nat) : Nat → List Nat → List Nat
  | 0, ws => ws
  | fuel + 1, ws =>
    let sum := total ws
    if sum == 0 || sum ≤ room then ws
    else
      let excess := sum - room
      let widest := ws.foldr max 0
      let next := (ws.map fun w => if w != widest then w else 0).foldr max 0
      let gap := widest - next
      if gap == 0 then ws
      else
        let ratios := ws.map fun w => if w == widest then 1 else 0
        collapse room fuel (ratioReduce excess ratios (ws.map fun _ => min excess gap) ws)

/-- The widths of the columns within `room` cells, blanks included, from the widest lines of
each column's cells. -/
def widthsWithin (room : Nat) (columns : List (List Nat)) : List Nat :=
  let wanted := columns.map fun ls => max (columnWant room ls) 1
  if total wanted ≤ room then wanted
  else
    let ws := collapse room (total wanted + 1) wanted
    let ws := if total ws > room then ratioReduce (total ws - room) (ws.map fun _ => 1) ws ws else ws
    (ws.zip columns).map fun (w, ls) => columnWant w ls

def cellLines (right : Bool) (width : Nat) (text : String) : List (List Char) :=
  let inner := width - 2
  let justify := if right then Justify.right else .left
  let lines := (text.splitOn "\n").flatMap fun l => wrapWith justify .ellipsis inner l.toList
  lines.map fun l => setCellSize width (' ' :: setCellSize inner l ++ [' '])

/-- The lines of a row: each cell as tall as the tallest, blank lines below its text (above it
in the header). -/
def rowLines (header : Bool) (cells : List (Nat × List (List Char))) : List (List (List Char)) :=
  let height := (cells.map (·.2.length)).foldr max 1
  let padded := cells.map fun (w, ls) =>
    let fill := List.replicate (height - ls.length) (blanks w)
    if header then fill ++ ls else ls ++ fill
  (List.range height).map fun i => padded.map fun ls => ls.getD i []

/-- A table at a console `width` cells wide (see the module note). -/
def table (width : Nat) (title : String) (columns : List Column) (rows : List (List String)) :
    String :=
  let frame := columns.length + 1
  let lines := columns.zipIdx.map fun (c, i) =>
    textWidth c.header :: rows.map fun r => textWidth (r.getD i "")
  let widths := widthsWithin (width - frame) lines
  let full := total widths + frame
  let rule := fun (l m r h : String) =>
    l ++ m.intercalate (widths.map fun w => String.join (List.replicate w h)) ++ r ++ "\n"
  let row := fun (side : String) (header : Bool) (cells : List String) =>
    let shaped := (columns.zip widths).zipIdx.map fun ((c, w), i) =>
      (w, cellLines c.right w (cells.getD i ""))
    String.join ((rowLines header shaped).map fun parts =>
      side ++ side.intercalate (parts.map String.ofList) ++ side ++ "\n")
  let titleLines := (title.splitOn "\n").flatMap fun l => wrapWith .center .fold full l.toList
  String.join (titleLines.map fun l => String.ofList l ++ "\n") ++ rule "┏" "┳" "┓" "━" ++
    row "┃" true (columns.map (·.header)) ++ rule "┡" "╇" "┩" "━" ++
    String.join (rows.map (row "│" false)) ++ rule "└" "┴" "┘" "─"

end DesktopPool.Console
