import DesktopPool.Toml.Chars
import DesktopPool.Value.Basic
import DesktopPool.Number.Read

/-! Reading a TOML document into a table, strictly by the TOML 1.1 grammar, one statement a
line: a key and its value, a table header, an array-of-tables header, a comment or nothing.
Tables come out with their keys in the order they were first written. Inline tables may span
lines, hold comments and end with a comma; text may escape the escape character (`\e`) and
a character by two hex digits (`\xHH`); seconds of a time may be left out.

Besides the grammar, two kinds of marks on key paths keep a document from saying one thing
twice: a table named by a header or by the dotted keys of a statement is *explicit* and cannot be
declared again, and an inline table or array is *frozen*, closed to additions. Dotted keys mark
the tables they pass through only once the next header starts, so a statement may extend what an
earlier statement of the same section opened.

A failure names what went wrong and where: `line L, column C` counted from one, or `end of
document`. Times and dates are read as moments. A decimal whole number longer than numbers are
read from is not a syntax problem: it fails as reading that number fails. -/
namespace DesktopPool.Toml

/-- What went wrong: the grammar broken at a position of the source, or a whole number with
more decimal digits than a number is read from. -/
inductive Problem where
  | at (pos : Nat) (what : String)
  | tooLong (digits : Nat)
  | tooDeep (what : String)

abbrev Reading (α : Type) := Except Problem α

/-- Where a position of the source is: `line L, column C`, or the end of the document. -/
def spot (s : Source) (pos : Nat) : String :=
  if pos ≥ s.size then "end of document"
  else
    let before := (s.extract 0 pos).toList
    let line := before.count '\n' + 1
    let column := match (before.zipIdx.filter (·.1 == '\n')).getLast? with
      | some (_, k) => pos - k
      | none => pos + 1
    s!"line {line}, column {column}"

/-- The fault of a problem: a syntax fault with its place in the source, or the fault of a
number too long to read. -/
def Problem.fault (s : Source) : Problem → Fault
  | .at pos what => .make .tomlSyntax (what ++ " (at " ++ spot s pos ++ ")")
  | .tooLong digits => .make .badValue (NumberText.tooLongMessage digits)
  | .tooDeep what => .make .tooDeep what

/-! ## Comments, blanks and quoted text -/

def illegalBasic (c : Char) : Bool := isControl c && c != '\t'

def illegalMultiline (c : Char) : Bool := isControl c && c != '\t' && c != '\n'

/-- The position of the next `expect` from `pos` (the end when there is none and that is
allowed); a character of the class `bad` before it is a problem. -/
def skipUntil (s : Source) (pos : Nat) (expect : String) (bad : Char → Bool)
    (endIsProblem : Bool) : Reading Nat := do
  let stop ← match findFrom s expect pos with
    | some j => pure j
    | none =>
      if endIsProblem then throw (.at s.size ("Expected " ++ Text.quote expect)) else pure s.size
  match firstIn s bad pos stop with
  | some (j, c) => throw (.at j ("Found invalid character " ++ Text.quote c.toString))
  | none => pure stop

def skipComment (s : Source) (pos : Nat) : Reading Nat :=
  if s[pos]? == some '#' then skipUntil s (pos + 1) "\n" illegalBasic false else pure pos

def skipArrayBlank (s : Source) (fuel pos : Nat) : Reading Nat :=
  match fuel with
  | 0 => pure pos
  | fuel + 1 => do
    let p ← skipComment s (skipWhile s isBlankOrNewline pos)
    if p == pos then pure pos else skipArrayBlank s fuel p

def isScalar (n : Nat) : Bool := n ≤ 0xD7FF || (0xE000 ≤ n && n ≤ 0x10FFFF)

def hexChar (s : Source) (pos n : Nat) : Reading (Nat × Char) :=
  let digits := (s.extract pos (pos + n)).toList
  if digits.length != n || !digits.all isHexDigit then throw (.at pos "Invalid hex value")
  else
    let code := digitsIn 16 digits
    if isScalar code then pure (pos + n, Char.ofNat code)
    else throw (.at (pos + n) "Escaped character is not a Unicode scalar value")

/-- An escape sequence at `pos` (at its backslash) inside basic text: the position after it
and the text it stands for. In multi-line text a backslash ending a line swallows the blanks
and line breaks after it. -/
def escape (s : Source) (pos : Nat) (multiline : Bool) : Reading (Nat × String) := do
  let e := s[pos + 1]?
  let pos := pos + 2
  if multiline && (e == some ' ' || e == some '\t' || e == some '\n') then
    if e == some '\n' then return (skipWhile s isBlankOrNewline pos, "")
    let p := skipWhile s isBlank pos
    match s[p]? with
    | none => return (p, "")
    | some c =>
      if c != '\n' then throw (.at p "Unescaped '\\' in a string")
      else return (skipWhile s isBlankOrNewline (p + 1), "")
  match e with
  | some 'x' => let (p, c) ← hexChar s pos 2; pure (p, c.toString)
  | some 'u' => let (p, c) ← hexChar s pos 4; pure (p, c.toString)
  | some 'U' => let (p, c) ← hexChar s pos 8; pure (p, c.toString)
  | some 'b' => pure (pos, (Char.ofNat 8).toString)
  | some 't' => pure (pos, "\t")
  | some 'n' => pure (pos, "\n")
  | some 'f' => pure (pos, (Char.ofNat 12).toString)
  | some 'r' => pure (pos, "\r")
  | some 'e' => pure (pos, (Char.ofNat 27).toString)
  | some '"' => pure (pos, "\"")
  | some '\\' => pure (pos, "\\")
  | _ => throw (.at pos "Unescaped '\\' in a string")

/-- The rest of basic text from `pos` (after the opening quotes): the position after the
closing quotes and the text read, `acc` being the text so far. -/
def basicText (s : Source) (multiline : Bool) (fuel pos : Nat) (acc : String) :
    Reading (Nat × String) :=
  match fuel with
  | 0 => throw (.at pos "Unterminated string")
  | fuel + 1 =>
    match s[pos]? with
    | none => throw (.at pos "Unterminated string")
    | some c =>
      if c == '"' then
        if !multiline then pure (pos + 1, acc)
        else if startsAt s pos "\"\"\"" then pure (pos + 3, acc)
        else basicText s multiline fuel (pos + 1) (acc.push c)
      else if c == '\\' then do
        let (p, t) ← escape s pos multiline
        basicText s multiline fuel p (acc ++ t)
      else if (if multiline then illegalMultiline c else illegalBasic c) then
        throw (.at pos ("Illegal character " ++ Text.quote c.toString))
      else basicText s multiline fuel (pos + 1) (acc.push c)

def literalText (s : Source) (pos : Nat) : Reading (Nat × String) := do
  let stop ← skipUntil s (pos + 1) Text.apostrophe.toString illegalBasic true
  pure (stop + 1, s.slice (pos + 1) stop)

/-- Multi-line text whose three opening quotes stand at `pos`. Up to two quotes right before
the closing three belong to the text. -/
def multilineText (s : Source) (pos : Nat) (literal : Bool) : Reading (Nat × String) := do
  let pos := pos + 3
  let pos := if s[pos]? == some '\n' then pos + 1 else pos
  let delim : Char := if literal then Text.apostrophe else '"'
  let (pos, text) ← if literal then do
      let three := String.ofList [delim, delim, delim]
      let stop ← skipUntil s pos three illegalMultiline true
      pure (stop + 3, s.slice pos stop)
    else basicText s true (s.size + 1) pos ""
  if s[pos]? != some delim then return (pos, text)
  if s[pos + 1]? != some delim then return (pos + 1, text.push delim)
  pure (pos + 2, (text.push delim).push delim)

/-! ## Keys -/

def keyPart (s : Source) (pos : Nat) : Reading (Nat × String) :=
  match s[pos]? with
  | some c =>
    if isBareKeyChar c then
      let stop := skipWhile s isBareKeyChar pos
      pure (stop, s.slice pos stop)
    else if c == Text.apostrophe then literalText s pos
    else if c == '"' then basicText s false (s.size + 1) (pos + 1) ""
    else throw (.at pos "Invalid initial character for a key part")
  | none => throw (.at pos "Invalid initial character for a key part")

def maxKeyParts : Nat := 1000

/-- A dotted key: its parts and the position after it and the blanks that follow. A key of
more than `maxKeyParts` parts is refused as soon as its part past the limit is read. -/
def key (s : Source) (pos : Nat) : Reading (Nat × List String) := do
  let (pos, first) ← keyPart s pos
  let rec more (fuel pos count : Nat) (acc : List String) : Reading (Nat × List String) :=
    match fuel with
    | 0 => pure (pos, acc.reverse)
    | fuel + 1 =>
      let pos := skipWhile s isBlank pos
      if s[pos]? != some '.' then pure (pos, acc.reverse)
      else do
        let (p, part) ← keyPart s (skipWhile s isBlank (pos + 1))
        if count + 1 > maxKeyParts then
          throw (.tooDeep s!"TOML key has more than the allowed {maxKeyParts} parts")
        more fuel p (count + 1) (part :: acc)
  more (s.size + 1) pos 1 [first]

/-! ## Times, dates and numbers -/

def digitsAt (s : Source) (i n : Nat) : Option Nat :=
  let cs := (s.extract i (i + n)).toList
  if cs.length == n && cs.all Char.isDigit then some (digitsIn 10 cs) else none

def leapYear (y : Nat) : Bool := (y % 4 == 0 && y % 100 != 0) || y % 400 == 0

def daysIn (y m : Nat) : Nat :=
  if m == 2 then (if leapYear y then 29 else 28)
  else if m == 4 || m == 6 || m == 9 || m == 11 then 30 else 31

/-- `HH:MM`, then `:SS` and a fraction when they are there, at `i`: the time and the position
after it. At most six digits of the fraction count. -/
def clockAt (s : Source) (i : Nat) : Option (Clock × Nat) := do
  let h ← digitsAt s i 2
  let m ← digitsAt s (i + 3) 2
  if h > 23 || m > 59 || s[i + 2]? != some ':' then none
  let seconds := if s[i + 5]? == some ':' then (digitsAt s (i + 6) 2).filter (· ≤ 59) else none
  match seconds with
  | none => pure (⟨h, m, 0, 0⟩, i + 5)
  | some sec =>
    let j := i + 8
    if s[j]? == some '.' && (s[j + 1]?.map Char.isDigit).getD false then
      let stop := skipWhile s Char.isDigit (j + 1)
      let frac := ((s.extract (j + 1) stop).toList.take 6)
      let micros := digitsIn 10 frac * Nat.pow 10 (6 - frac.length)
      pure (⟨h, m, sec, micros⟩, stop)
    else pure (⟨h, m, sec, 0⟩, j)

/-- A zone offset at `i`: `Z` or `±HH:MM`, in minutes east of UTC, and the position after it. -/
def offsetAt (s : Source) (i : Nat) : Option (Int × Nat) :=
  match s[i]? with
  | some 'Z' | some 'z' => some (0, i + 1)
  | some c =>
    if c != '+' && c != '-' then none
    else do
      let h ← digitsAt s (i + 1) 2
      let m ← digitsAt s (i + 4) 2
      if h > 23 || m > 59 || s[i + 3]? != some ':' then none
      let minutes : Int := h * 60 + m
      pure (if c == '-' then -minutes else minutes, i + 6)
  | none => none

/-- A date, optionally with a time and a zone, at `i`: `some (valid, moment, end)` when the
shape matches, where `valid` says the date exists. -/
def momentAt (s : Source) (i : Nat) : Option (Bool × Moment × Nat) := do
  let y ← digitsAt s i 4
  let mo ← digitsAt s (i + 5) 2
  let d ← digitsAt s (i + 8) 2
  if s[i + 4]? != some '-' || s[i + 7]? != some '-' || mo < 1 || mo > 12 || d < 1 || d > 31 then
    none
  let valid := 1 ≤ y && d ≤ daysIn y mo
  let day : Day := ⟨y, mo, d⟩
  let sep := s[i + 10]?
  let withTime :=
    if sep == some 'T' || sep == some 't' || sep == some ' ' then
      (clockAt s (i + 11)).map fun (c, j) =>
        match offsetAt s j with
        | some (z, k) => (Moment.dateTime day c (some z), k)
        | none => (Moment.dateTime day c none, j)
    else none
  match withTime with
  | some (m, j) => pure (valid, m, j)
  | none => pure (valid, .date day, i + 10)

/-- A number at `i`: whole numbers in bases 16, 8 and 2 after `0x`, `0o`, `0b`, and decimal
numbers with an optional sign, fraction and exponent. A decimal whole number of more digits
than numbers are read from is a problem. -/
def numberAt (s : Source) (i : Nat) : Option (Reading (Value × Nat)) :=
  let based : Option (Value × Nat) :=
    if s[i]? != some '0' then none
    else
      let (isD, base) : (Char → Bool) × Nat := match s[i + 1]? with
        | some 'x' => (isHexDigit, 16)
        | some 'o' => (isOctDigit, 8)
        | some 'b' => (isBinDigit, 2)
        | _ => (fun _ => false, 10)
      (digitRun s isD (i + 2)).map fun stop =>
        (.int (digitsIn base ((s.extract (i + 2) stop).toList.filter (· != '_'))), stop)
  match based with
  | some r => some (.ok r)
  | none =>
    let p := if s[i]? == some '+' || s[i]? == some '-' then i + 1 else i
    let whole : Option Nat :=
      match s[p]? with
      | some '0' => some (p + 1)
      | some c => if c.isDigit then digitRun s Char.isDigit p else none
      | none => none
    whole.bind fun w =>
      let f := if s[w]? == some '.' then (digitRun s Char.isDigit (w + 1)).getD w else w
      let e :=
        if s[f]? == some 'e' || s[f]? == some 'E' then
          let q := if s[f + 1]? == some '+' || s[f + 1]? == some '-' then f + 2 else f + 1
          (digitRun s Char.isDigit q).getD f
        else f
      let text := (s.extract i e).toList.filter (· != '_')
      if e > w then
        (NumberText.readFloat? (String.ofList text)).map fun x => .ok (.float x, e)
      else
        let (neg, digits) := NumberText.sign text
        let n : Int := digitsIn 10 digits
        if digits.length > NumberText.maxDigits then some (.error (.tooLong digits.length))
        else some (.ok (.int (if neg then -n else n), e))

/-! ## Nests and marks -/

/-- The table at `path` below `t`, changed by `f`; missing tables on the way are created, and
with `lists` a list on the way stands for its last element. A value on the way that is no table
is a problem. -/
def changeNest (t : List (String × Value)) (path : List String) (lists : Bool)
    (f : List (String × Value) → Except String (List (String × Value))) :
    Except String (List (String × Value)) :=
  match path with
  | [] => f t
  | k :: rest =>
    match (t.lookup k).getD (.table []) with
    | .table inner => do pure (Table.set t k (.table (← changeNest inner rest lists f)))
    | .list xs =>
      if !lists then throw "Cannot overwrite a value"
      else match xs.getLast? with
        | some (.table inner) => do
          let changed ← changeNest inner rest lists f
          pure (Table.set t k (.list (xs.dropLast ++ [.table changed])))
        | _ => throw "Cannot overwrite a value"
    | _ => throw "Cannot overwrite a value"

inductive Mark where
  | explicit
  | frozen
  deriving DecidableEq

/-- A mark on a key path; a recursive mark covers every path below it too. -/
structure Flag where
  path : List String
  mark : Mark
  recursive : Bool

def marked (flags : List Flag) (key : List String) (m : Mark) : Bool :=
  !key.isEmpty && flags.any fun f =>
    f.mark == m && (f.path == key ||
      (f.recursive && f.path.length < key.length && f.path.isPrefixOf key))

def unmark (flags : List Flag) (key : List String) : List Flag :=
  flags.filter fun f => !key.isPrefixOf f.path

/-! ## Values -/

/-- The deepest level of arrays and inline tables a value may sit at. -/
def maxNesting : Nat := 400

mutual
/-- A value at `pos`, inside `level` arrays and inline tables: the position after it and the
value. A value deeper than `maxNesting` is refused before it is looked at. `fuel` bounds the
nesting. -/
def value (s : Source) (level fuel pos : Nat) : Reading (Nat × Value) :=
  match fuel with
  | 0 => throw (.at pos "Invalid value")
  | fuel + 1 =>
    if level > maxNesting then
      throw (.tooDeep
        s!"TOML inline arrays/tables are nested more than the allowed {maxNesting} levels")
    else
    let c := s[pos]?
    if c == some '"' then
      if startsAt s pos "\"\"\"" then do
        let (p, t) ← multilineText s pos false
        pure (p, .str t)
      else do
        let (p, t) ← basicText s false (s.size + 1) (pos + 1) ""
        pure (p, .str t)
    else if c == some Text.apostrophe then
      if startsAt s pos (String.ofList (List.replicate 3 Text.apostrophe)) then do
        let (p, t) ← multilineText s pos true
        pure (p, .str t)
      else do
        let (p, t) ← literalText s pos
        pure (p, .str t)
    else if c == some 't' && startsAt s pos "true" then pure (pos + 4, .bool true)
    else if c == some 'f' && startsAt s pos "false" then pure (pos + 5, .bool false)
    else if c == some '[' then do
      let p ← skipArrayBlank s (s.size + 1) (pos + 1)
      if s[p]? == some ']' then pure (p + 1, .list []) else arrayItems s (level + 1) fuel p []
    else if c == some '{' then do
      let p ← skipArrayBlank s (s.size + 1) (pos + 1)
      if s[p]? == some '}' then pure (p + 1, .table [])
      else inlineItems s (level + 1) fuel p [] []
    else
      match momentAt s pos with
      | some (valid, m, stop) =>
        if valid then pure (stop, .moment m) else throw (.at pos "Invalid date or datetime")
      | none =>
        match clockAt s pos with
        | some (clock, stop) => pure (stop, .moment (.time clock))
        | none =>
          match numberAt s pos with
          | some r => do let (v, stop) ← r; pure (stop, v)
          | none =>
            let three := s.slice pos (pos + 3)
            let four := s.slice pos (pos + 4)
            if three == "inf" then pure (pos + 3, .float (1.0 / 0.0))
            else if three == "nan" then pure (pos + 3, .float (0.0 / 0.0))
            else if four == "+inf" then pure (pos + 4, .float (1.0 / 0.0))
            else if four == "-inf" then pure (pos + 4, .float (-(1.0 / 0.0)))
            else if four == "+nan" || four == "-nan" then pure (pos + 4, .float (0.0 / 0.0))
            else throw (.at pos "Invalid value")

def arrayItems (s : Source) (level fuel pos : Nat) (acc : List Value) : Reading (Nat × Value) :=
  match fuel with
  | 0 => throw (.at pos "Unclosed array")
  | fuel + 1 => do
    let (p, v) ← value s level fuel pos
    let p ← skipArrayBlank s (s.size + 1) p
    if s[p]? == some ']' then return (p + 1, .list (v :: acc).reverse)
    if s[p]? != some ',' then throw (.at p "Unclosed array")
    let p ← skipArrayBlank s (s.size + 1) (p + 1)
    if s[p]? == some ']' then return (p + 1, .list (v :: acc).reverse)
    arrayItems s level fuel p (v :: acc)

def inlineItems (s : Source) (level fuel pos : Nat) (acc : List (String × Value)) (flags : List Flag) :
    Reading (Nat × Value) :=
  match fuel with
  | 0 => throw (.at pos "Unclosed inline table")
  | fuel + 1 => do
    let (p, k) ← key s pos
    if s[p]? != some '=' then throw (.at p "Expected '=' after a key in a key/value pair")
    let (p, v) ← value s level fuel (skipWhile s isBlank (p + 1))
    if marked flags k .frozen then throw (.at p ("Cannot mutate immutable namespace " ++ showPath k))
    let stem := k.getLast?.getD ""
    let changed := changeNest acc k.dropLast false fun nest =>
      if (nest.lookup stem).isSome then throw ("Duplicate inline table key " ++ Text.quote stem)
      else pure (Table.set nest stem v)
    let acc ← match changed with
      | .ok t => pure t
      | .error e => throw (.at p e)
    let p ← skipArrayBlank s (s.size + 1) p
    if s[p]? == some '}' then return (p + 1, .table acc)
    if s[p]? != some ',' then throw (.at p "Unclosed inline table")
    let flags := match v with
      | .table _ | .list _ => ⟨k, .frozen, true⟩ :: flags
      | _ => flags
    let p ← skipArrayBlank s (s.size + 1) (p + 1)
    if s[p]? == some '}' then return (p + 1, .table acc)
    inlineItems s level fuel p acc flags
end

/-! ## Statements -/

/-- What reading has built so far: the document, the marks, the marks waiting for the next
header, and the path of the current section. -/
structure Progress where
  data : List (String × Value) := []
  flags : List Flag := []
  pending : List (List String) := []
  header : List String := []

def keyValue (s : Source) (pos : Nat) : Reading (Nat × List String × Value) := do
  let (p, k) ← key s pos
  if s[p]? != some '=' then throw (.at p "Expected '=' after a key in a key/value pair")
  let (p, v) ← value s 0 (s.size + 1) (skipWhile s isBlank (p + 1))
  pure (p, k, v)

def settle (p : Nat) (r : Except String (List (String × Value))) : Reading (List (String × Value)) :=
  match r with
  | .ok t => pure t
  | .error e => throw (.at p e)

def keyValueRule (s : Source) (pos : Nat) (st : Progress) : Reading (Nat × Progress) := do
  let (p, k, v) ← keyValue s pos
  let parent := st.header ++ k.dropLast
  let stem := k.getLast?.getD ""
  let through := (List.range (k.length - 1)).map fun i => st.header ++ k.take (i + 1)
  for path in through do
    if marked st.flags path .explicit then
      throw (.at p ("Cannot redefine namespace " ++ showPath path))
  if marked st.flags parent .frozen then
    throw (.at p ("Cannot mutate immutable namespace " ++ showPath parent))
  let data ← settle p (changeNest st.data parent true fun nest =>
    if (nest.lookup stem).isSome then throw "Cannot overwrite a value"
    else pure (Table.set nest stem v))
  let flags := match v with
    | .table _ | .list _ => ⟨st.header ++ k, .frozen, true⟩ :: st.flags
    | _ => st.flags
  pure (p, { st with data, flags, pending := st.pending ++ through })

def tableRule (s : Source) (pos : Nat) (st : Progress) : Reading (Nat × Progress) := do
  let (p, k) ← key s (skipWhile s isBlank (pos + 1))
  if marked st.flags k .explicit || marked st.flags k .frozen then
    throw (.at p ("Cannot declare " ++ showPath k ++ " twice"))
  let flags := ⟨k, .explicit, false⟩ :: st.flags
  let data ← settle p (changeNest st.data k true pure)
  if s[p]? != some ']' then throw (.at p "Expected ']' at the end of a table declaration")
  pure (p + 1, { st with data, flags, header := k })

/-- A `[[array of tables]]` header at `pos`: a new empty table at the end of the array. -/
def arrayTableRule (s : Source) (pos : Nat) (st : Progress) : Reading (Nat × Progress) := do
  let (p, k) ← key s (skipWhile s isBlank (pos + 2))
  if marked st.flags k .frozen then throw (.at p ("Cannot mutate immutable namespace " ++ showPath k))
  let flags := ⟨k, .explicit, false⟩ :: unmark st.flags k
  let last := k.getLast?.getD ""
  let data ← settle p (changeNest st.data k.dropLast true fun cont =>
    match cont.lookup last with
    | some (.list xs) => pure (Table.set cont last (.list (xs ++ [.table []])))
    | some _ => throw "Cannot overwrite a value"
    | none => pure (Table.set cont last (.list [.table []])))
  if !startsAt s p "]]" then throw (.at p "Expected ']]' at the end of an array declaration")
  pure (p + 2, { st with data, flags, header := k })

def Progress.settlePending (st : Progress) : Progress :=
  { st with flags := st.pending.map (fun path => ⟨path, .explicit, false⟩) ++ st.flags,
            pending := [] }

def statements (s : Source) (fuel pos : Nat) (st : Progress) : Reading Progress :=
  match fuel with
  | 0 => pure st
  | fuel + 1 => do
    let pos := skipWhile s isBlank pos
    match s[pos]? with
    | none => pure st
    | some '\n' => statements s fuel (pos + 1) st
    | some c =>
      let (p, st) ←
        if isBareKeyChar c || c == '"' || c == Text.apostrophe then do
          let (p, st) ← keyValueRule s pos st
          pure (skipWhile s isBlank p, st)
        else if c == '[' then do
          let st := st.settlePending
          let (p, st) ← if s[pos + 1]? == some '[' then arrayTableRule s pos st
            else tableRule s pos st
          pure (skipWhile s isBlank p, st)
        else if c != '#' then throw (.at pos "Invalid statement")
        else pure (pos, st)
      let p ← skipComment s p
      match s[p]? with
      | none => pure st
      | some '\n' => statements s fuel (p + 1) st
      | some _ => throw (.at p "Expected newline or end of document after a statement")

/-- Read a whole document (`\r\n` counts as a line break). -/
def read (text : String) : Outcome Value :=
  let s := Source.ofString (text.replace "\r\n" "\n")
  match statements s (s.size + 1) 0 {} with
  | .ok st => .ok (.table st.data)
  | .error p => .error (p.fault s)

end DesktopPool.Toml
