import DesktopPool.Toml.Document
import DesktopPool.Toml.Chars
import DesktopPool.Text.Blank

/-! Reading a TOML document with its layout into a `Document`, the way the writing side reads
the file it is about to change. Every top-level entry keeps the text it was read from.

The reader goes forward one character at a time and stops at the first thing it cannot read,
naming the kind of failure and its place as `line L col C` (the line counted from one, the
column from zero). It is more lenient than the strict reader in places (a value it cannot read
inside an array may end the array early) and stricter in others (the kinds of values are told
apart by their first character). A second use of a key is a failure of its own: at the top
level it is reported at the place where reading stands, inside a table without a place.

Arrays catch one kind of failure: an unexpected character met while reading an element. The
reader then looks again at where it stands, which for text and truth values is where the
element began. -/
namespace DesktopPool.Toml

/-- A failure of the reader: its kind, its message, and the position the reader is back at once
the failure has left the step that raised it. -/
structure Stop where
  kind : String
  message : String
  resume : Nat

abbrev Scan := ReaderT Source (StateT Nat (Except Stop))

/-! ## Places -/

def isLineBreak (c : Char) : Bool :=
  let n := c.toNat
  c == '\n' || c == '\r' || n == 0x0B || n == 0x0C || n == 0x1C || n == 0x1D || n == 0x1E ||
    n == 0x85 || n == 0x2028 || n == 0x2029

/-- The lengths of the lines of a text; `\r\n` ends one line, and a final line break does not
start another. -/
def lineLengths : List Char → Nat → List Nat → List Nat
  | [], n, acc => (if n > 0 then n :: acc else acc).reverse
  | '\r' :: '\n' :: rest, n, acc => lineLengths rest 0 (n :: acc)
  | c :: rest, n, acc =>
    if isLineBreak c then lineLengths rest 0 (n :: acc) else lineLengths rest (n + 1) acc

/-- Line (from one) and column (from zero) of a position, each line counted with one
character for its break. A position past the last line is at column zero of the last line. -/
def lineCol (s : Source) (idx : Nat) : Nat × Nat :=
  let lines := lineLengths s.toList 0 []
  let rec go : List Nat → Nat → Nat → Nat × Nat
    | [], _, _ => (lines.length, 0)
    | len :: rest, i, cur =>
      if cur + len + 1 > idx then (i + 1, idx - cur) else go rest (i + 1) (cur + len + 1)
  go lines 0 0

namespace Scan

variable {α : Type}

def stopAt (kind what : String) (p : Nat) : Scan α := do
  let (line, col) := lineCol (← read) p
  throw ⟨kind, what ++ " at line " ++ toString line ++ " col " ++ toString col, p⟩

def stopHere (kind what : String) : Scan α := do stopAt kind what (← get)

def unexpected (c : String) : Scan α :=
  stopHere "UnexpectedCharError" ("Unexpected character: " ++ Text.quote c)

def unexpectedEnd : Scan α := stopHere "UnexpectedEofError" "Unexpected end of file"

def invalidInString (c : Char) : Scan α :=
  stopHere "InvalidCharInStringError" ("Invalid character " ++ Text.quote c.toString ++ " in string")

def controlChar (code : Nat) (place : String) : Scan α :=
  let shown := "\\u00" ++ (if code < 16 then "0" else "") ++ String.ofList (Nat.toDigits 16 code)
  stopHere "InvalidControlChar" ("Control characters (codes less than 0x1f and 0x7f) are not " ++
    "allowed in " ++ place ++ ", use " ++ shown ++ " instead")

def cur : Scan Char := do
  let s ← read
  let p ← get
  pure (s[p]?.getD (Char.ofNat 0))

def atEnd : Scan Bool := do pure ((← get) ≥ (← read).size)

def inc : Scan Bool := do
  let s ← read
  let p ← get
  if p + 1 < s.size then
    set (p + 1)
    pure true
  else
    set s.size
    pure false

def incOrEnd : Scan Unit := do
  if !(← inc) then unexpectedEnd

def advanceWhile (p : Char → Bool) : Scan Unit := do set (skipWhile (← read) p (← get))

def sliceFrom (i : Nat) : Scan String := do pure ((← read).slice i (← get))

/-- A step that, when it fails, leaves the reader where the step began. -/
def restoring (x : Scan α) : Scan α := do
  let p ← get
  tryCatch x fun e => throw { e with resume := p }

end Scan

open Scan

/-! ## Comments and text -/

def isWs (c : Char) : Bool := c == ' ' || c == '\t' || c == '\r' || c == '\n'

/-- Blanks up to a comment or the line end; the comment is read to its end. The result is
where the line end starts: after the comment, or where the blanks started when there is none. -/
def scanComment (start : Nat) : Nat → Scan Nat
  | 0 => pure start
  | fuel + 1 => do
    let c ← cur
    if c == '\n' then pure start
    else if c == '#' then
      let _ ← inc
      let s ← read
      let p ← get
      let q := skipWhile s (fun ch => ch != '\n' && ch != '\r') p
      match firstIn s (fun ch => ch.toNat == 0x7F || (ch.toNat ≤ 0x1F && ch.toNat != 9)) p q with
      | some (j, ch) =>
        set j
        controlChar ch.toNat "comments"
      | none =>
        set q
        pure q
    else if c == ' ' || c == '\t' || c == '\r' then
      let _ ← inc
      if ← atEnd then pure start else scanComment start fuel
    else unexpected c.toString

/-- An optional comment and, with `withLineEnd`, the blanks and line break after it. The
result is where the line end starts. -/
def commentTrail (withLineEnd : Bool) : Scan Nat := do
  if ← atEnd then return (← get)
  let start ← get
  let mark ← scanComment start ((← read).size + 1)
  if withLineEnd then
    advanceWhile isBlank
    if (← cur) == '\r' then let _ ← inc
    if (← cur) == '\n' then let _ ← inc
  pure mark

def escapeOf (c : Char) : Option String :=
  if c == 'b' then some (Char.ofNat 8).toString
  else if c == 'e' then some (Char.ofNat 27).toString
  else if c == 't' then some "\t"
  else if c == 'n' then some "\n"
  else if c == 'f' then some (Char.ofNat 12).toString
  else if c == 'r' then some "\r"
  else if c == '"' then some "\""
  else if c == '\\' then some "\\"
  else none

def peekUnicode (n : Nat) : Scan (Option (Char × Nat)) := do
  let s ← read
  let p ← get
  let p1 := if p + 1 < s.size then p + 1 else s.size
  if !(p1 + n < s.size) then return none
  let digits := (s.extract p1 (p1 + n)).toList
  let surrogate := match digits with
    | d0 :: d1 :: _ => (d0 == 'd' || d0 == 'D') && !isOctDigit d1
    | _ => false
  if surrogate || !digits.all isHexDigit then return none
  let code := digitsIn 16 digits
  if code > 0x10FFFF || (0xD800 ≤ code && code ≤ 0xDFFF) then return none
  pure (some (Char.ofNat code, n))

def skipWsOrEnd : Nat → Scan Unit
  | 0 => pure ()
  | fuel + 1 => do
    if isWs (← cur) then
      incOrEnd
      skipWsOrEnd fuel

def escapeAt (multiline : Bool) : Scan String := do
  let c ← cur
  if multiline && isWs c then
    let start ← get
    skipWsOrEnd ((← read).size + 1)
    if !(← sliceFrom start).contains '\n' then invalidInString (← cur)
    return ""
  match escapeOf c with
  | some t =>
    incOrEnd
    pure t
  | none =>
    if c == 'x' || c == 'u' || c == 'U' then
      match ← peekUnicode (if c == 'x' then 2 else if c == 'u' then 4 else 8) with
      | some (ch, n) =>
        let s ← read
        let p ← get
        set (if p + n + 1 < s.size then p + n + 1 else s.size)
        pure ch.toString
      | none => stopHere "InvalidUnicodeValueError" "Invalid unicode value"
    else invalidInString c

/-- The body of text from `mark` on, up to its closing quotes: the value and the text as
written between the quotes. -/
def stringBody (delim : Char) (basic multiline : Bool) (mark : Nat) :
    Nat → String → Bool → Scan (String × String)
  | 0, _, _ => unexpectedEnd
  | fuel + 1, value, escaped => do
    let c ← cur
    let code := c.toNat
    let bad := code == 0x7F || (code ≤ 0x1F && code != 9 && (!multiline || (code != 10 && code != 13)))
    if !escaped && bad then controlChar code "strings"
    else if !escaped && c == delim then
      let inner ← sliceFrom mark
      if multiline then
        let closeStart ← get
        advanceWhile (· == delim)
        let n := (← get) - closeStart
        let run := String.ofList (List.replicate n delim)
        if n < 3 then stringBody delim basic multiline mark fuel (value ++ run) false
        else if n == 3 then pure (value, inner)
        else if n ≥ 6 then invalidInString (← cur)
        else
          let extra := String.ofList (List.replicate (n - 3) delim)
          pure (value ++ extra, inner ++ extra)
      else
        let _ ← inc
        pure (value, inner)
    else if basic && escaped then
      let t ← escapeAt multiline
      stringBody delim basic multiline mark fuel (value ++ t) false
    else if basic && c == '\\' then
      incOrEnd
      stringBody delim basic multiline mark fuel value true
    else
      incOrEnd
      stringBody delim basic multiline mark fuel (value.push c) false

/-- Text whose opening quote stands at the reader: its value, its text as written (quotes
included) and whether it is multi-line. -/
def parseString (delim : Char) (basic : Bool) : Scan (String × String × Bool) := do
  let s ← read
  incOrEnd
  let d := delim.toString
  let mut multiline := false
  if (← cur) == delim then
    let more ← inc
    if !more || (← cur) != delim then return ("", d ++ d, false)
    incOrEnd
    multiline := true
  let mark ← get
  if multiline then
    let p ← get
    if (← cur) == '\n' then incOrEnd
    else if (← cur) == '\r' && s[p + 1]? == some '\n' then
      incOrEnd
      incOrEnd
  let (value, inner) ← stringBody delim basic multiline mark (s.size + 1) "" false
  let q := if multiline then d ++ d ++ d else d
  pure (value, q ++ inner ++ q, multiline)

/-! ## Keys -/

/-- A key as read: its parts, and the text of each part as written, blanks around it included. -/
structure Key where
  parts : List String
  texts : List String

def Key.first (k : Key) : String := k.parts.headD ""

def Key.firstText (k : Key) : String := k.texts.headD ""

def Key.isDotted (k : Key) : Bool := k.parts.length > 1

def parseKey : Nat → Scan Key
  | 0 => stopHere "EmptyKeyError" "Empty key"
  | fuel + 1 => do
    let start ← get
    advanceWhile isBlank
    let c ← cur
    let (part, text) ← if c == '"' || c == Text.apostrophe then do
        let lead ← sliceFrom start
        let (value, raw, multiline) ← parseString c (c == '"')
        if multiline then unexpected (String.ofList (raw.toList.take 3))
        let mid ← get
        advanceWhile isBlank
        let trailing ← sliceFrom mid
        pure (value, lead ++ raw ++ trailing)
      else do
        advanceWhile fun ch => isBareKeyChar ch || isBlank ch
        let original ← sliceFrom start
        let k := Text.trim original
        if k.isEmpty then stopHere "EmptyKeyError" "Empty key"
        if k.contains ' ' then stopHere "ParseError" ("Invalid key \"" ++ k ++ "\"")
        pure (k, original)
    if (← cur) == '.' then
      let _ ← inc
      let rest ← parseKey fuel
      pure ⟨part :: rest.parts, text :: rest.texts⟩
    else pure ⟨[part], [text]⟩

/-! ## Numbers, dates and times -/

/-- Whether a number is written right: no leading zeros, prefixes only without a sign,
underscores only between digits, no point without digits after it, and then a whole number in
its base or a decimal fraction (`inf` and `nan` included). -/
def validNumber (raw : String) : Bool :=
  let cs := raw.toList
  let (signed, body) : Bool × List Char := match cs with
    | '+' :: rest => (true, rest)
    | '-' :: rest => (true, rest)
    | _ => (false, cs)
  let starts (p : String) : Bool := p.toList.isPrefixOf body
  if body.length > 1 && ((starts "0" && !(["0.", "0o", "0x", "0b", "0e"].any starts)) ||
      (signed && starts ".")) then false
  else if (starts "0o" || starts "0x" || starts "0b") && signed then false
  else
    let isD : Char → Bool :=
      if starts "0b" then isBinDigit else if starts "0o" then isOctDigit
      else if starts "0x" then isHexDigit else Char.isDigit
    let arr := body.toArray
    let clean := (body.zipIdx.filter fun (c, i) =>
      !(c == '_' && i > 0 && (arr[i - 1]?.map isD).getD false && (arr[i + 1]?.map isD).getD false)).map
        fun (c, _) => c.toLower
    let mantissa := clean.takeWhile (· != 'e')
    if clean.contains '_' then false
    else if clean.getLast? == some '.' then false
    else if !("0x".toList.isPrefixOf clean) && mantissa.getLast? == some '.' then false
    else
      let whole (pre : String) (d : Char → Bool) : Bool :=
        pre.toList.isPrefixOf clean && (clean.drop pre.length).length > 0 &&
          (clean.drop pre.length).all d
      let isInt :=
        if starts "0b" then whole "0b" isBinDigit
        else if starts "0o" then whole "0o" isOctDigit
        else if starts "0x" then whole "0x" isHexDigit
        else !clean.isEmpty && clean.all Char.isDigit
      let digits (xs : List Char) : Bool := !xs.isEmpty && xs.all Char.isDigit
      let fraction : Bool :=
        let m := clean.takeWhile (· != 'e')
        let e := clean.dropWhile (· != 'e')
        let mOk := match m.splitOn '.' with
          | [w] => digits w
          | [w, f] => (digits w && (f.isEmpty || digits f)) || (w.isEmpty && digits f)
          | _ => false
        let eOk := match e with
          | [] => true
          | _ :: rest =>
            match rest with
            | '+' :: ds | '-' :: ds => digits ds
            | ds => digits ds
        mOk && eOk
      isInt || fraction || ["inf", "infinity", "nan"].contains (String.ofList clean)

/-- A date and time as the loose shape reads them: the date, the separator before the time,
the time (with seconds up to 60) and whether a zone follows. -/
structure Stamp where
  date : Option (Nat × Nat × Nat)
  sep : Option Char
  time : Option (Nat × Nat × Nat)
  zone : Bool

def takeDigits (n : Nat) (cs : List Char) : Option (Nat × List Char) :=
  let ds := cs.take n
  if ds.length == n && ds.all Char.isDigit then some (digitsIn 10 ds, cs.drop n) else none

/-- A zone at the front: `Z`, or a sign (`|` counts as one) and `HH:MM` with the hour below 24. -/
def zoneAt (cs : List Char) : Option (List Char) :=
  match cs with
  | 'Z' :: rest | 'z' :: rest => some rest
  | c :: rest =>
    if c != '+' && c != '-' && c != '|' then none
    else do
      let (h, r1) ← takeDigits 2 rest
      match r1 with
      | ':' :: r2 =>
        let (m, r3) ← takeDigits 2 r2
        if h ≤ 23 && m ≤ 59 then some r3 else none
      | _ => none
  | [] => none

/-- `HH:MM`, then optionally `:SS` with an optional fraction, then an optional zone, all of the
text. Missing seconds are zero. -/
def clockRest (cs : List Char) : Option ((Nat × Nat × Nat) × Bool) := do
  let (h, r1) ← takeDigits 2 cs
  let r2 ← match r1 with | ':' :: r => some r | _ => none
  let (m, r3) ← takeDigits 2 r2
  let (sec, r5) := match r3 with
    | ':' :: r4 => (takeDigits 2 r4).getD (0, r3)
    | _ => (0, r3)
  let r6 := if r5.length == r3.length then r5 else match r5 with
    | '.' :: d :: r => if d.isDigit then (d :: r).dropWhile Char.isDigit else r5
    | _ => r5
  if r6.isEmpty then some ((h, m, sec), false)
  else match zoneAt r6 with
    | some [] => some ((h, m, sec), true)
    | _ => none

def readStamp (cs : List Char) : Option Stamp :=
  let datePart : Option ((Nat × Nat × Nat) × List Char) := do
    let ys := cs.takeWhile Char.isDigit
    if ys.isEmpty then none
    let r1 := cs.drop ys.length
    let r2 ← match r1 with | '-' :: r => some r | _ => none
    let (mo, r3) ← takeDigits 2 r2
    let r4 ← match r3 with | '-' :: r => some r | _ => none
    let (d, r5) ← takeDigits 2 r4
    pure ((digitsIn 10 ys, mo, d), r5)
  let timePart (rest : List Char) : Option (Option Char × (Nat × Nat × Nat) × Bool) :=
    match rest with
    | c :: r =>
      if c == 'T' || c == 't' || c == ' ' then
        match clockRest r with
        | some (t, z) => some (some c, t, z)
        | none => (clockRest rest).map fun (t, z) => (none, t, z)
      else (clockRest rest).map fun (t, z) => (none, t, z)
    | [] => none
  match datePart with
  | some (date, []) => some ⟨some date, none, none, false⟩
  | some (date, rest) =>
    (timePart rest).map fun (sep, t, z) => ⟨some date, sep, some t, z⟩
  | none => (timePart cs).map fun (sep, t, z) => ⟨none, sep, some t, z⟩

def dateExists (y mo d : Nat) : Bool :=
  let leap := (y % 4 == 0 && y % 100 != 0) || y % 400 == 0
  let days := if mo == 2 then (if leap then 29 else 28)
    else if mo == 4 || mo == 6 || mo == 9 || mo == 11 then 30 else 31
  1 ≤ y && y ≤ 9999 && 1 ≤ mo && mo ≤ 12 && 1 ≤ d && d ≤ days

def timeExists (t : Nat × Nat × Nat) : Bool := t.1 ≤ 23 && t.2.1 ≤ 59 && t.2.2 ≤ 59

def strictDateTime (text : String) : Bool :=
  match readStamp text.toList with
  | some ⟨some (y, mo, d), some _, some t, _⟩ => dateExists y mo d && timeExists t
  | _ => false

def strictDate (text : String) : Bool :=
  match readStamp text.toList with
  | some ⟨some (y, mo, d), none, none, _⟩ => dateExists y mo d
  | _ => false

def strictTime (text : String) : Bool :=
  match readStamp text.toList with
  | some ⟨none, none, some t, false⟩ => timeExists t
  | _ => false

def endsValue (c : Char) : Bool :=
  c == ' ' || c == '\t' || c == '\n' || c == '\r' || c == '#' || c == ',' || c == ']' || c == '}'

def peekWord (s : Source) (p : Nat) : String :=
  let cs := ((s.extract p (p + 4)).toList.takeWhile fun c => !endsValue c && c.toNat != 0)
  String.ofList cs

/-- A value that starts with a digit, from `mark`: a date, a time, a date and time, or a number.
A date may be followed, after a space, by its time. The result is where the value's text ends. -/
def numberOrMoment (mark : Nat) : Scan Nat := do
  advanceWhile fun c => !endsValue c
  let raw ← sliceFrom mark
  match readStamp raw.toList with
  | some st =>
    if st.date.isSome && st.time.isSome then
      if strictDateTime raw then get else stopHere "InvalidDateTimeError" "Invalid datetime"
    else if st.date.isSome then
      if !strictDate raw then stopHere "InvalidDateError" "Invalid date"
      let dateEnd ← get
      advanceWhile fun c =>
        !(c == '\t' || c == '\n' || c == '\r' || c == '#' || c == ',' || c == ']' || c == '}')
      let timeRaw ← sliceFrom dateEnd
      let timePart := String.ofList (timeRaw.toList.reverse.dropWhile Text.isBlank).reverse
      if timePart.isEmpty then return dateEnd
      if strictDateTime (raw ++ timePart) then pure (dateEnd + timePart.length)
      else stopHere "InvalidDateError" "Invalid date"
    else if strictTime raw then get
    else stopHere "InvalidTimeError" "Invalid time"
  | none => if validNumber raw then get else stopHere "InvalidNumberError" "Invalid number"

def word (w : String) : Scan Unit :=
  w.toList.forM fun ch => do
    if (← cur) == ch then
      let _ ← inc
    else unexpected (← cur).toString

/-! ## Tables' keys

A table keeps its entries in the order they were added. A key may be added twice only when
both uses are tables: a table continued elsewhere. When the first use is a table that only
holds the tables a dotted name passed through (a *super* table) and so is the second, the
second joins the first when it comes right after it and neither came from a dotted key;
otherwise it stays a part of its own, and the parts are checked together: their entries, added
to one table, must not clash, at any depth. An element of an array of tables turns a table of
its name into an array; a table header after a super table a dotted key opened redefines it,
which is refused. Other second uses are refused, and so are tables after arrays of tables. -/

/-- A key as a table holds it: its name, and whether a dotted key put it there. -/
structure Name where
  text : String
  dotted : Bool := false

/-- What a table holds under a key, as far as a later use of the key is concerned: a plain
value, a table (`super` when it only holds the tables a dotted name passed through, `element`
when it is an element of an array of tables; with its entries and the keys its tables were
added under), or an array of tables. -/
inductive Held where
  | plain
  | table (super element : Bool) (body : List (Name × Held)) (tableKeys : List String)
  | aot
  deriving Inhabited

def Held.isTable : Held → Bool
  | .table .. => true
  | _ => false

/-- The entries of a table, and the keys its tables were added under, in order. -/
structure Box where
  body : List (Name × Held) := []
  tableKeys : List String := []
  deriving Inhabited

abbrev Refused := Except (String × String)

def keyPresent {α : Type} (key : String) : Refused α :=
  .error ("KeyAlreadyPresent", "Key \"" ++ key ++ "\" already exists.")

namespace Box

def last? (b : Box) (key : String) : Option (Nat × Name × Held) :=
  (b.body.zipIdx.filter (·.1.1.text == key)).getLast?.map fun ((n, h), i) => (i, n, h)

/-- An entry put at the end; a key may come again only after a table. -/
def rawAppend (b : Box) (n : Name) (h : Held) : Refused Box :=
  match b.last? n.text with
  | some (_, _, .plain) | some (_, _, .aot) => keyPresent n.text
  | _ => .ok { body := b.body ++ [(n, h)], tableKeys := if h.isTable then b.tableKeys ++ [n.text] else b.tableKeys }

def repeated (b : Box) : List String :=
  let names := b.body.map (·.1.text)
  (names.foldl (fun acc k => if acc.contains k then acc else acc ++ [k]) []).filter
    fun k => (names.filter (· == k)).length > 1

mutual
/-- An entry added to a table (see the note above); `check` says whether the parts of a table
continued elsewhere are checked at once. -/
def append : Nat → Box → Name → Held → Bool → Refused Box
  | 0, b, _, _, _ => .ok b
  | fuel + 1, b, n, h, check =>
    match b.last? n.text with
    | none => b.rawAppend n h
    | some (i, cn, current) =>
      match h, current with
      | .table .., .plain => keyPresent n.text
      | .table _ true _ _, .table .. => .ok { b with body := b.body.set i (cn, .aot) }
      | .table _ true _ _, .aot => .ok b
      | .table _ false _ _, .aot => keyPresent n.text
      | .table super false body _, .table cSuper cElement cBody cKeys =>
        if cSuper then
          if super then
            if n.dotted || cn.dotted || b.tableKeys.getLast? != some cn.text then
              let b := { body := b.body ++ [(n, h)], tableKeys := b.tableKeys ++ [n.text] }
              if check then (checkParts fuel b n.text).map fun _ => b else .ok b
            else
              (appendAll fuel { body := cBody, tableKeys := cKeys } body).map fun merged =>
                { b with body := b.body.set i (cn, .table cSuper cElement merged.body merged.tableKeys) }
          else if cn.dotted then .error ("TOMLKitError", "Redefinition of an existing table")
          else b.rawAppend n h
        else if !super then keyPresent n.text
        else b.rawAppend n h
      | .aot, .aot => .ok b
      | _, _ => keyPresent n.text

def appendAll : Nat → Box → List (Name × Held) → Refused Box
  | 0, b, _ => .ok b
  | _ + 1, b, [] => .ok b
  | fuel + 1, b, (n, h) :: rest => do appendAll fuel (← append fuel b n h true) rest

/-- The entries of the parts of the table `key`, added to one table, must not clash. -/
def checkParts : Nat → Box → String → Refused Unit
  | 0, _, _ => .ok ()
  | fuel + 1, b, key => do
    let entries := (b.body.filter (·.1.text == key)).flatMap fun (_, h) =>
      match h with
      | .table _ _ body _ => body
      | _ => []
    let merged ← entries.foldlM (fun acc (n, h) => append fuel acc n h false) {}
    checkAll fuel merged merged.repeated

def checkAll : Nat → Box → List String → Refused Unit
  | 0, _, _ => .ok ()
  | _ + 1, _, [] => .ok ()
  | fuel + 1, b, key :: rest => do
    checkParts fuel b key
    checkAll fuel b rest
end

def add (size : Nat) (b : Box) (n : Name) (h : Held) : Refused Box := append (4 * size + 8) b n h true

end Box

/-- What a `key = value` adds to its table: a dotted key adds the tables its name passes
through, marked as put there by a dotted key, down to the value. -/
def dottedEntry : List String → Name × Held
  | [] => (⟨"", false⟩, .plain)
  | [k] => (⟨k, false⟩, .plain)
  | k :: rest =>
    let (inner, h) := dottedEntry rest
    let inner := if rest.length > 1 then { inner with dotted := true } else inner
    (⟨k, true⟩, .table true false [(inner, h)] (if h.isTable then [inner.text] else []))

def refuse (e : String × String) : Scan α := do throw ⟨e.1, e.2, ← get⟩

/-! ## Values and entries -/

/-- A `key = value` as read: the key, and where the value's text starts and ends. -/
structure Pair where
  key : Key
  valueStart : Nat
  valueEnd : Nat

def separator : Nat → Bool → Scan Bool
  | 0, found => pure found
  | fuel + 1, found => do
    let c ← cur
    if c == '=' || c == ' ' || c == '\t' then
      if ← inc then
        if (← cur) == '=' then
          if found then unexpected "="
          separator fuel true
        else separator fuel found
      else pure found
    else pure found

def skipLayout : Nat → Scan Unit
  | 0 => pure ()
  | fuel + 1 => do
    advanceWhile isWs
    if (← cur) == '#' then
      let _ ← commentTrail false
      skipLayout fuel

mutual
def parseValue : Nat → Scan Nat
  | 0 => unexpectedEnd
  | fuel + 1 => do
    let s ← read
    let mark ← get
    let c ← cur
    if c == '"' then
      let _ ← restoring (parseString '"' true)
      get
    else if c == Text.apostrophe then
      let _ ← restoring (parseString Text.apostrophe false)
      get
    else if c == 't' then
      restoring (word "true")
      get
    else if c == 'f' then
      restoring (word "false")
      get
    else if c == '[' then
      incOrEnd
      arrayElements fuel false
      get
    else if c == '{' then
      incOrEnd
      inlineElements fuel none {}
      get
    else if c == '+' || c == '-' ||
        ["+inf", "-inf", "inf", "+nan", "-nan", "nan"].contains (peekWord s mark) then
      advanceWhile fun ch => !endsValue ch
      if validNumber (← sliceFrom mark) then get else stopHere "InvalidNumberError" "Invalid number"
    else if c.isDigit then numberOrMoment mark
    else unexpected c.toString

/-- The elements of an array after its `[`; `prev` says an element was just read. -/
def arrayElements : Nat → Bool → Scan Unit
  | 0, _ => unexpectedEnd
  | fuel + 1, prev => do
    let mark ← get
    advanceWhile isWs
    let indent ← sliceFrom mark
    if indent.contains '\n' || indent.contains '\r' then return (← arrayElements fuel prev)
    if (← cur) == '#' then
      let _ ← commentTrail false
      return (← arrayElements fuel prev)
    if !indent.isEmpty then return (← arrayElements fuel prev)
    if !prev then
      let caught ← tryCatch (do let _ ← parseValue fuel; pure none) fun e =>
        if e.kind == "UnexpectedCharError" then pure (some e.resume) else throw e
      match caught with
      | none => return (← arrayElements fuel true)
      | some r => set r
    if prev && (← cur) == ',' then
      incOrEnd
      return (← arrayElements fuel false)
    if (← cur) == ']' then
      let _ ← inc
      return ()
    unexpected (← cur).toString

/-- The entries of an inline table after its `{`; `comma` says whether the last entry was
followed by a comma (none before the first entry). Entries may be on lines of their own, with
comments between them, and the last may be followed by a comma. -/
def inlineElements : Nat → Option Bool → Box → Scan Unit
  | 0, _, _ => unexpectedEnd
  | fuel + 1, comma, keys => do
    skipLayout ((← read).size + 1)
    let c ← cur
    if c == '}' then
      let _ ← inc
      return ()
    if c == ',' || comma == some false then unexpected c.toString
    let p ← keyValuePair fuel false
    let (n, h) := dottedEntry p.key.parts
    let keys ← match Box.add (← read).size keys n h with
      | .ok k => pure k
      | .error e => refuse e
    skipLayout ((← read).size + 1)
    let more := (← cur) == ','
    if more then incOrEnd
    inlineElements fuel (some more) keys

/-- `key = value` at the reader, with the rest of its line when `withComment`. -/
def keyValuePair : Nat → Bool → Scan Pair
  | 0, _ => unexpectedEnd
  | fuel + 1, withComment => do
    advanceWhile isBlank
    let key ← parseKey ((← read).size + 1)
    let found ← separator ((← read).size + 1) ((← cur) == '=')
    if !found then unexpected (← cur).toString
    let valueStart ← get
    let valueEnd ← parseValue fuel
    if withComment then let _ ← commentTrail true
    pure ⟨key, valueStart, valueEnd⟩
end

inductive Item where
  | space
  | comment
  | pair (p : Pair)

/-- The next item from `start`: blanks up to and with a line break, a comment line, or a
`key = value` line; nothing at a table header (the blanks before it are passed). -/
def scanItem (start : Nat) : Nat → Scan (Option Item)
  | 0 => pure none
  | fuel + 1 => do
    let c ← cur
    if c == '\n' then
      let _ ← inc
      pure (some .space)
    else if c == ' ' || c == '\t' || c == '\r' then
      if !(← inc) then pure (some .space) else scanItem start fuel
    else if c == '#' then
      let _ ← commentTrail true
      pure (some .comment)
    else if c == '[' then pure none
    else
      set start
      pure (some (.pair (← keyValuePair (4 * (← read).size + 10) true)))

def parseItem : Scan (Option Item) := do scanItem (← get) ((← read).size + 1)

/-! ## Tables -/

def peekTable : Scan (Bool × Key) := do
  let p ← get
  let _ ← inc
  let isArray ← if (← cur) == '[' then (do let _ ← inc; pure true) else pure false
  let key ← tryCatch (parseKey ((← read).size + 1)) fun e =>
    if e.kind == "EmptyKeyError" then stopAt "EmptyTableNameError" "Empty table name" e.resume
    else throw e
  set p
  pure (isArray, key)

def isChild (parent child : List String) : Bool := parent != child && parent.isPrefixOf child

/-- A table read from its header on: the key it goes under in its parent, what it holds there,
its header, and where its text ends (where the text before the next header begins). -/
structure Section where
  key : String
  held : Held
  header : Header
  shown : Bool
  rest : String
  endsBlank : Bool
  isArray : Bool
  stop : Nat

/-- What `[a.b.c]` adds under `a` for `names = [b, c]`: super tables down to `last`. -/
def impliedChain : List String → Held → List (Name × Held)
  | [], _ => []
  | [n], last => [(⟨n, false⟩, last)]
  | n :: rest, last =>
    let inner := impliedChain rest last
    [(⟨n, false⟩, .table true false inner ((inner.filter (·.2.isTable)).map (·.1.text)))]

mutual
/-- A table whose header is at the reader, inside the table `parent`, the text before the header
starting at `indentStart`; `arrays` are the arrays of tables being read. -/
def parseTable : Nat → List String → List (List String) → Nat → Scan Section
  | 0, _, _, _ => unexpectedEnd
  | fuel + 1, parent, arrays, indentStart => do
    let s ← read
    let headerStart ← get
    let indent := s.slice indentStart headerStart
    let _ ← inc
    if ← atEnd then unexpectedEnd
    let mut isArray := false
    if (← cur) == '[' then
      if !(← inc) then unexpectedEnd
      isArray := true
    let key ← tryCatch (parseKey (s.size + 1)) fun e =>
      if e.kind == "EmptyKeyError" then stopAt "EmptyTableNameError" "Empty table name" e.resume
      else throw e
    if ← atEnd then unexpectedEnd
    if (← cur) != ']' then unexpected (← cur).toString
    let names := key.parts.drop parent.length
    let texts := key.texts.drop parent.length
    let _ ← inc
    if isArray then let _ ← inc
    let afterHeader ← get
    let trailStart ← commentTrail true
    let comment := s.slice afterHeader trailStart
    let lineEnd ← sliceFrom trailStart
    let (box, endsBlank, stop) ← tableBody fuel key.parts arrays {} false
    let name := names.headD key.first
    let nameText := texts.headD key.firstText
    if names.length > 1 then
      let innermost := if isArray then Held.aot else .table false false box.body box.tableKeys
      let chain := impliedChain (names.drop 1) innermost
      let held := Held.table true (isArray && arrays.contains [name]) chain
        ((chain.filter (·.2.isTable)).map (·.1.text))
      pure { key := name, held,
             header := { keyText := nameText, indent := "", comment, lineEnd }, shown := false,
             rest := s.slice indentStart stop, endsBlank := false, isArray := false, stop }
    else if isArray && arrays.head? != some key.parts then
      let stop ← arraySiblings fuel key.parts (key.parts :: arrays) stop
      pure { key := name, held := .aot, header := { keyText := nameText, lineEnd := "" },
             shown := true,
             rest := s.slice indentStart stop, endsBlank := false, isArray := true, stop }
    else
      pure { key := name, held := .table false isArray box.body box.tableKeys,
             header := { keyText := nameText, indent, comment, lineEnd },
             shown := true, rest := s.slice headerStart stop, endsBlank, isArray := false, stop }

/-- The body of the table `full`: its items up to a header that is not of a table under it,
then the tables under it. The result: the table's keys, whether its own items end with blanks,
and where its text ends. -/
def tableBody : Nat → List String → List (List String) → Box → Bool → Scan (Box × Bool × Nat)
  | 0, _, _, keys, blank => do pure (keys, blank, ← get)
  | fuel + 1, full, arrays, keys, blank => do
    if ← atEnd then return (keys, blank, (← read).size)
    let itemStart ← get
    match ← parseItem with
    | some .space => tableBody fuel full arrays keys true
    | some .comment => tableBody fuel full arrays keys false
    | some (.pair p) =>
      let (n, h) := dottedEntry p.key.parts
      match Box.add (← read).size keys n h with
      | .ok ks => tableBody fuel full arrays ks false
      | .error e => refuse e
    | none =>
      if (← cur) != '[' then
        stopHere "InternalParserError" "Internal parser error"
      let (_, next) ← peekTable
      if isChild full next.parts then
        let (keys, stop) ← subTables fuel full arrays keys itemStart
        pure (keys, false, stop)
      else pure (keys, blank, itemStart)

def subTables : Nat → List String → List (List String) → Box → Nat → Scan (Box × Nat)
  | 0, _, _, keys, _ => do pure (keys, ← get)
  | fuel + 1, full, arrays, keys, indentStart => do
    let sec ← parseTable fuel full arrays indentStart
    let keys ← match Box.add (← read).size keys ⟨sec.key, false⟩ sec.held with
      | .ok k => pure k
      | .error e => refuse e
    if ← atEnd then return (keys, sec.stop)
    let (_, next) ← peekTable
    if isChild full next.parts then subTables fuel full arrays keys sec.stop
    else pure (keys, sec.stop)

def arraySiblings : Nat → List String → List (List String) → Nat → Scan Nat
  | 0, _, _, stop => pure stop
  | fuel + 1, name, arrays, stop => do
    if ← atEnd then return stop
    let (isArray, next) ← peekTable
    if isArray && next.parts == name then
      let sec ← parseTable fuel name arrays stop
      arraySiblings fuel name arrays sec.stop
    else pure stop
end

/-! ## Documents -/

def refuseHere (e : String × String) : Scan α := stopHere "ParseError" e.2

/-- The entries before the first table header. The result: the entries, the keys, and where
the text before the first header starts. -/
def topItems : Nat → Document → Box → Scan (Document × Box × Nat)
  | 0, entries, keys => do pure (entries, keys, ← get)
  | fuel + 1, entries, keys => do
    if (← atEnd) || (← cur) == '[' then return (entries, keys, ← get)
    let s ← read
    let start ← get
    match ← parseItem with
    | none => pure (entries, keys, start)
    | some item =>
      let text ← sliceFrom start
      match item with
      | .space =>
        match entries.getLast? with
        | some (.blank t) => topItems fuel (entries.dropLast ++ [.blank (t ++ text)]) keys
        | _ => topItems fuel (entries ++ [.blank text]) keys
      | .comment => topItems fuel (entries ++ [.note text]) keys
      | .pair p =>
        let (n, h) := dottedEntry p.key.parts
        let keys ← match Box.add s.size keys n h with
          | .ok k => pure k
          | .error e => refuseHere e
        let stop ← get
        let e := if p.key.isDotted then Entry.dotted p.key.first p.key.firstText text
          else Entry.pair p.key.first (s.slice start p.valueStart) (s.slice p.valueStart p.valueEnd)
            (s.slice p.valueEnd stop)
        topItems fuel (entries ++ [e]) keys

def topTables : Nat → Document → Box → Nat → Scan Document
  | 0, entries, _, _ => pure entries
  | fuel + 1, entries, keys, indentStart => do
    if ← atEnd then return entries
    let sec ← parseTable (4 * (← read).size + 10) [] [] indentStart
    let keys ← match Box.add (← read).size keys ⟨sec.key, false⟩ sec.held with
      | .ok k => pure k
      | .error e => refuseHere e
    let t : ReadTable := { header := sec.header, shown := sec.shown, rest := sec.rest,
                           endsBlank := sec.endsBlank, isArray := sec.isArray }
    topTables fuel (entries ++ [.table sec.key t]) keys sec.stop

def readDocument : Scan Document := do
  let n := (← read).size + 1
  let (entries, keys, indentStart) ← topItems n [] {}
  topTables n entries keys indentStart

/-- A document read with its layout, or the kind and message of the failure. -/
def readLayout (text : String) : Except (String × String) Document :=
  match (readDocument.run (Source.ofString text)).run 0 with
  | .ok (d, _) => .ok d
  | .error e => .error (e.kind, e.message)

end DesktopPool.Toml
