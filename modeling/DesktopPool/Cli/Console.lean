import DesktopPool.Fault
import DesktopPool.Text.Blank
import DesktopPool.Text.Cells
import DesktopPool.Cli.Emoji
import DesktopPool.Cli.Style
import DesktopPool.Cli.Literal

/-! What a terminal of fixed width shows for printed text: markup tags are taken out, the bell,
backspace, vertical tab, form feed and carriage return are dropped, tabs stop every eight
cells, and every line is wrapped at the width.

Markup: a tag is `[` followed by a lower-case ASCII letter, `#`, `/` or `@`, then anything but
`[`, up to the first `]`. A run of backslashes right before a tag stands for half as many
backslashes; when the run is odd the tag is kept as text. A tag whose name starts with `/`
closes the innermost open tag of the same style (styles compared in their normal form,
`Style.normalize`), or the innermost open tag when no style follows; a closing tag that finds
nothing to close is an error, and so is closing a handler tag (a style starting with `@`) whose
parameters are not good (`Literal.goodParameters`). Elsewhere, `\[` stands for `[`, and emoji
codes are replaced (`Emoji.replace`), within each run of text between tags.

Wrapping: a line is read as words, each a run of blanks, then of non-blanks, then of blanks (the
leading blanks belong to the first word only). A word goes on the current line when its text
without its trailing blanks fits; otherwise it starts a new line, and a word wider than a whole
line is cut into pieces of the width. A piece longer than the width loses as many of its
trailing blanks as it is too long, and is then cut at the width. Widths are counted in cells
(`Unicode.textCells`), and a cut never splits a span (`Unicode.spans`): one that would split a
wide span leaves a blank in its place.

Text set in a table cell is wrapped the same way, except that a word wider than the cell stays
whole on its own line, and a line too wide is cut one cell short and ends with an ellipsis. -/
namespace DesktopPool.Console

def cellLen (cs : List Char) : Nat := Unicode.textCells cs

def blanks (n : Nat) : List Char := List.replicate n ' '

/-! ## Markup -/

/-- The text of a tag, after its `[`: up to the first `]`, when it starts as a tag must and
holds no `[`; with what follows the `]`. -/
def tagText (cs : List Char) : Option (List Char × List Char) :=
  match cs with
  | c :: rest =>
    if c.isLower || c == '#' || c == '/' || c == '@' then
      let body := rest.takeWhile fun d => d != ']' && d != '['
      match rest.drop body.length with
      | ']' :: after => some (c :: body, after)
      | _ => none
    else none
  | [] => none

/-- Plain text between tags: `\[` stands for `[`. -/
def plainText : List Char → List Char
  | '\\' :: '[' :: rest => '[' :: plainText rest
  | c :: rest => c :: plainText rest
  | [] => []

def shownRun (reversed : List Char) : List Char :=
  (Emoji.replace (String.ofList reversed.reverse)).toList.reverse

/-- Plain text read so far, given reversed, as shown: `\[` read as `[`, then emoji codes
replaced; the result is reversed. -/
def flushPlain (plain : List Char) : List Char := shownRun (plainText plain.reverse).reverse

def markupFault (message : String) : Fault := Fault.make .markup message

structure OpenTag where
  style : String
  parameters : Option String

def closeNamed (style : String) : List OpenTag → Option (OpenTag × List OpenTag)
  | [] => none
  | t :: rest =>
    if t.style == style then some (t, rest)
    else (closeNamed style rest).map fun (found, inner) => (found, t :: inner)

/-- A closed tag checked: a handler tag (its style starts with `@`) with parameters must have
good ones. -/
def checkClosed (t : OpenTag) : Outcome Unit :=
  match t.parameters with
  | some p =>
    if t.style.startsWith "@" && !p.isEmpty && !Literal.goodParameters p then
      .error (markupFault ("error parsing " ++ Text.quote (Text.trim p)))
    else .ok ()
  | none => .ok ()

/-- Markup read from `cs` at offset `pos`, with the plain text not yet written `plain` (reversed),
the output so far `out` (reversed) and the open tags (innermost first). Every step reads at
least one character, so `fuel` above the length of `cs` reads it all. -/
def strip (fuel : Nat) (cs : List Char) (pos : Nat) (plain out : List Char) (open_ : List OpenTag) :
    Outcome (List Char) :=
  match fuel, cs with
  | _, [] | 0, _ => .ok (flushPlain plain ++ out).reverse
  | fuel + 1, c :: rest =>
    let slashes := cs.takeWhile (· == '\\')
    let tag := match cs.drop slashes.length with
      | '[' :: afterBracket => tagText afterBracket
      | _ => none
    match tag with
    | none => strip fuel rest (pos + 1) (c :: plain) out open_
    | some (text, after) =>
      let out := flushPlain plain ++ out
      let out := (List.replicate (slashes.length / 2) '\\') ++ out
      let next := pos + slashes.length + text.length + 2
      if slashes.length % 2 == 1 then
        strip fuel after next [] (shownRun (('[' :: text) ++ [']']).reverse ++ out) open_
      else
        let at_ := pos + 2 * (slashes.length / 2)
        let name := text.takeWhile (· != '=')
        let parameters := if name.length < text.length then
            some (String.ofList (text.drop (name.length + 1))) else none
        match name with
        | '/' :: closing =>
          let closing := Text.trim (String.ofList closing)
          if closing.isEmpty then
            match open_ with
            | t :: inner => do
              checkClosed t
              strip fuel after next [] out inner
            | [] => .error (markupFault
                s!"closing tag '[/]' at position {at_} has nothing to close")
          else do
            match closeNamed (← Style.normalize closing) open_ with
            | some (t, inner) => do
              checkClosed t
              strip fuel after next [] out inner
            | none => .error (markupFault
                s!"closing tag '[{String.ofList text}]' at position {at_} doesn't match any open tag")
        | _ => do
          let style ← Style.normalize (String.ofList name)
          strip fuel after next [] out (⟨style, parameters⟩ :: open_)

def render (markup : String) : Outcome String :=
  (strip (markup.length + 1) markup.toList 0 [] [] []).map String.ofList

/-! ## Lines -/

/-- Characters the console drops: bell, backspace, vertical tab, form feed, carriage return. -/
def isDropped (c : Char) : Bool := [7, 8, 11, 12, 13].contains c.toNat

/-- A line with each tab replaced by a blank and more blanks up to the next multiple of eight
cells. The line is measured a piece at a time, each piece running up to and taking in a tab
(read as its blank). -/
def expandTabs (cs : List Char) : List Char :=
  let (out, piece, _) := cs.foldl (fun (out, piece, col) c =>
    if c == '\t' then
      let col := col + cellLen (piece ++ [' '])
      let pad := (8 - col % 8) % 8
      (out ++ piece ++ ' ' :: blanks pad, [], col + pad)
    else (out, piece ++ [c], col)) ([], [], 0)
  out ++ piece

def words (line : Array Char) : List (Nat × Nat) :=
  let n := line.size
  let skip := fun (p : Char → Bool) (i : Nat) =>
    (List.range (n - i)).find? (fun k => !p (line.getD (i + k) ' ')) |>.map (i + ·) |>.getD n
  let rec go (fuel i : Nat) : List (Nat × Nat) :=
    match fuel with
    | 0 => []
    | fuel + 1 =>
      let a := skip Text.isBlank i
      let b := skip (fun c => !Text.isBlank c) a
      if b == a then []
      else
        let e := skip Text.isBlank b
        (i, e) :: go fuel e
  go (n + 1) 0

/-- Pieces of a word wider than a line: as many spans (`Unicode.spans`) as fit in `width` cells
each; a span wider than the width starts a piece of its own after an empty one. -/
def chop (width : Nat) (cs : List Char) : List (List Char) :=
  let arr := cs.toArray
  let (done, from_, used) := (Unicode.spans arr).foldl (fun (done, from_, used) s =>
    if used + s.cells > width then ((arr.extract from_ s.start).toList :: done, s.start, s.cells)
    else (done, from_, used + s.cells)) ([], 0, 0)
  (if used > 0 then (arr.extract from_ arr.size).toList :: done else done).reverse

/-- Where a line breaks at `width` cells (see the module note). A word wider than a whole line
is cut into pieces when `fold`, and otherwise kept whole on a line of its own. -/
def breaks (fold : Bool) (line : Array Char) (width : Nat) : List Nat :=
  let step := fun (acc : List Nat × Nat) (w : Nat × Nat) =>
    let (out, offset) := acc
    let (start, stop) := w
    let word := (line.extract start stop).toList
    let bare := cellLen ((word.reverse.dropWhile Text.isBlank).reverse)
    if width ≥ offset + bare then (out, offset + cellLen word)
    else if bare > width then
      if fold then
        let pieces := chop width word
        let (out, _, offset) := pieces.foldl (fun (out, s, _) piece =>
          (if s > 0 then s :: out else out, s + piece.length, cellLen piece)) (out, start, 0)
        (out, offset)
      else (if start > 0 then start :: out else out, cellLen word)
    else if offset > 0 && start > 0 then (start :: out, cellLen word)
    else (out, offset)
  ((words line).foldl step ([], 0)).1.reverse

/-- Characters that take one cell and are cut by position alone: printable Latin, Greek and
Cyrillic, box drawing and geometric shapes, and Braille. -/
def isSingleCell (c : Char) : Bool :=
  let n := c.toNat
  (0x20 ≤ n && n ≤ 0x7E) || (0xA0 ≤ n && n ≤ 0xAC) || (0xAE ≤ n && n ≤ 0x2FF) ||
    (0x370 ≤ n && n ≤ 0x482) || (0x2500 ≤ n && n ≤ 0x25FC) || (0x2800 ≤ n && n ≤ 0x28FF)

/-- The front of `cs` that ends where `total` cells are reached: up to the first span
(`Unicode.spans`) that starts there, or, when a span runs past it, up to that span and a blank. -/
def cutAt (cs : Array Char) (total : Nat) : List Char :=
  let rec go : List Unicode.Span → Nat → List Char
    | [], _ => cs.toList
    | s :: rest, used =>
      if used == total then (cs.extract 0 s.start).toList
      else if used + s.cells > total then (cs.extract 0 s.start).toList ++ [' ']
      else go rest (used + s.cells)
  go (Unicode.spans cs) 0

/-- Text made exactly `total` cells wide: padded with blanks or cut. Text of single-cell
characters only is cut by position, so a negative size drops that many characters from its
end; other text of a size below one is empty. -/
def setCellSize (total : Int) (cs : List Char) : List Char :=
  if cs.all isSingleCell then
    if (cs.length : Int) < total then cs ++ blanks (total - cs.length).toNat
    else if total ≥ 0 then cs.take total.toNat
    else cs.take (cs.length + total).toNat
  else if total ≤ 0 then []
  else
    let n := total.toNat
    let size := cellLen cs
    if size == n then cs
    else if size < n then cs ++ blanks (n - size)
    else cutAt cs.toArray n

/-- How a line wider than its cells is cut: at the width (a long word then also folds over
several lines), or one cell short with an ellipsis after it. -/
inductive Overflow where
  | fold
  | ellipsis
  deriving DecidableEq

inductive Justify where
  | asIs
  | left
  | right
  | center
  deriving DecidableEq

/-- A line cut to `width` cells as `overflow` says; unchanged when it fits. -/
def truncate (overflow : Overflow) (width : Int) (cs : List Char) : List Char :=
  if (cellLen cs : Int) > width then
    match overflow with
    | .fold => setCellSize width cs
    | .ellipsis => setCellSize (width - 1) cs ++ ['…']
  else cs

def stripEnd (cs : List Char) : List Char := (cs.reverse.dropWhile Text.isBlank).reverse

/-- A piece longer than `width` characters loses as many of its trailing blanks as it is too
long. -/
def stripExcess (width : Nat) (piece : List Char) : List Char :=
  if piece.length > width then
    let trailing := (piece.reverse.takeWhile Text.isBlank).length
    piece.take (piece.length - min trailing (piece.length - width))
  else piece

def justifyLine (justify : Justify) (overflow : Overflow) (width : Nat) (cs : List Char) :
    List Char :=
  match justify with
  | .asIs => cs
  | .left =>
    let size := cellLen cs
    let cut := truncate overflow width cs
    if size < width then cut ++ blanks (width - size) else cut
  | .right =>
    let cut := truncate overflow width (stripEnd cs)
    blanks (width - cellLen cut) ++ cut
  | .center =>
    let cut := truncate overflow width (stripEnd cs)
    let shifted := blanks ((width - cellLen cut) / 2) ++ cut
    shifted ++ blanks (width - cellLen shifted)

def wrapWith (justify : Justify) (overflow : Overflow) (width : Nat) (line : List Char) :
    List (List Char) :=
  let line := if line.contains '\t' then expandTabs line else line
  let arr := line.toArray
  let cuts := breaks (overflow == .fold) arr width
  let bounds := (0 :: cuts).zip (cuts ++ [arr.size])
  bounds.map fun (a, b) =>
    truncate overflow width (justifyLine justify overflow width (stripExcess width (arr.extract a b).toList))

def wrapLine (width : Nat) (line : List Char) : List String :=
  (wrapWith .asIs .fold width line).map String.ofList

/-- Text as the console shows it at `width` cells, with its final line end. -/
def layout (width : Nat) (text : String) : String :=
  let cs := text.toList.filter (!isDropped ·)
  let lines := (String.ofList cs).splitOn "\n"
  String.join ((lines.flatMap fun l => wrapLine width l.toList).map (· ++ "\n"))

/-- Text printed without markup, as the console shows it at `width` cells: its emoji codes
replaced, with its final line end. -/
def plainLayout (width : Nat) (text : String) : String := layout width (Emoji.replace text)

def printed (width : Nat) (markup : String) : Outcome String := do
  pure (layout width (← render markup))

end DesktopPool.Console
