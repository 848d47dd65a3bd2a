import DesktopPool.Text.Unicode
import DesktopPool.Text.Blank
import DesktopPool.Text.Quoted

/-! Literal values, as the parameters of a handler tag in console markup write them. A handler
tag `[@name=parameters]` is checked when it is closed: its parameters, trimmed, are either a
handler name (letters, digits, `_` and `.`) followed by a parenthesised part, whose
parenthesised part is read, or a bare handler name, for which nothing is read, or else the
whole text is read. What is read must be a literal value, or the markup is refused.

A literal value is written in the usual expression syntax and is one of: a number (whole,
fractional or imaginary, in decimal, or a whole number in hexadecimal, octal or binary, with
single underscores between digits), possibly with a sign; a real number plus or minus an
imaginary one; adjacent quoted texts, or adjacent quoted byte strings (not mixed); `True`,
`False`, `None` or `...`; a tuple, set or dictionary of literal values, or `set()`. Elements of
a set and keys of a dictionary must be values that can be hashed: no sets or dictionaries, and
no tuples holding them. Formatted strings are never literal. Blanks, comments, line breaks
inside brackets and escaped line breaks may come between the parts; line breaks outside
brackets may only end the text. -/
namespace DesktopPool.Literal

inductive Constant where
  | whole | fraction | imaginary | truth | nothing | text | bytes | ellipsis
  deriving DecidableEq

inductive Token where
  | number (k : Constant)
  | string (bytes : Bool)
  | name (s : String)
  /-- A bracket, `,`, `:`, `+`, `-` or `...`. -/
  | mark (s : String)
  /-- The end of a line that holds pieces, outside brackets. -/
  | lineEnd
  deriving DecidableEq

/-! ## Cutting text into pieces -/

def isNameStart (c : Char) : Bool := c.isAlpha || c == '_' || c.toNat ≥ 128

def isNameChar (c : Char) : Bool := isNameStart c || c.isDigit

def isHex (c : Char) : Bool := c.isDigit || ('a' ≤ c && c ≤ 'f') || ('A' ≤ c && c ≤ 'F')

def hexValue (cs : List Char) : Nat :=
  cs.foldl (fun n c =>
    let d := if c.isDigit then c.toNat - 48
      else if 'a' ≤ c && c ≤ 'f' then c.toNat - 87 else c.toNat - 55
    16 * n + d) 0

def isOctal (c : Char) : Bool := '0' ≤ c && c ≤ '7'

def isBinary (c : Char) : Bool := c == '0' || c == '1'

/-- Digits of the class `p` with single underscores between them, after the first digit: how
many digits in all (the first counted) and what follows. -/
def digitTail (p : Char → Bool) : List Char → Nat → Nat × List Char
  | '_' :: c :: rest, n => if p c then digitTail p rest (n + 1) else (n, '_' :: c :: rest)
  | c :: rest, n => if p c then digitTail p rest (n + 1) else (n, c :: rest)
  | [], n => (n, [])

def digitRun (p : Char → Bool) : List Char → Option (Nat × List Char)
  | c :: rest => if p c then some (digitTail p rest 1) else none
  | [] => none

def exponent (cs : List Char) : Option (List Char) :=
  let cs := match cs with
    | '+' :: rest | '-' :: rest => rest
    | _ => cs
  (digitRun Char.isDigit cs).map (·.2)

/-- The fractional part and exponent of a number after its whole part, and the imaginary mark:
the kind of the number and what follows. `point` says a fraction or exponent was seen. -/
def numberTail (cs : List Char) (point : Bool) : Option (Constant × Bool × List Char) :=
  let scaled : Option (Bool × List Char) := match cs with
    | e :: rest => if e == 'e' || e == 'E' then (exponent rest).map (true, ·) else some (point, cs)
    | [] => some (point, cs)
  scaled.map fun (point, cs) =>
    match cs with
    | j :: rest =>
      if j == 'j' || j == 'J' then (Constant.imaginary, true, rest)
      else (if point then Constant.fraction else Constant.whole, point, cs)
    | [] => (if point then Constant.fraction else Constant.whole, point, [])

def maxDigits : Nat := 4300

/-- A number at the start of `cs`: its kind and what follows it. A whole decimal number may not
start with a zero unless it is all zeros, nor have more than `maxDigits` digits; a number may not
run straight into a name. -/
def number (cs : List Char) : Option (Constant × List Char) := do
  let (k, rest) ← match cs with
    | '0' :: x :: rest =>
      let based := fun (p : Char → Bool) => do
        let rest := match rest with
          | '_' :: more => more
          | _ => rest
        let (_, after) ← digitRun p rest
        pure (Constant.whole, after)
      if x == 'x' || x == 'X' then based isHex
      else if x == 'o' || x == 'O' then based isOctal
      else if x == 'b' || x == 'B' then based isBinary
      else decimal cs
    | _ => decimal cs
  match rest with
  | c :: _ => if isNameChar c then none else pure (k, rest)
  | [] => pure (k, rest)
where
  /-- A decimal number, or a fraction that starts with its point. -/
  decimal (cs : List Char) : Option (Constant × List Char) := do
    match cs with
    | '.' :: rest =>
      let (_, rest) ← digitRun Char.isDigit rest
      let (k, _, rest) ← numberTail rest true
      pure (k, rest)
    | _ =>
      let (digits, rest) ← digitRun Char.isDigit cs
      let (point, rest) : Bool × List Char := match rest with
        | '.' :: more => (true, ((digitRun Char.isDigit more).map (fun (p : Nat × List Char) => p.2)).getD more)
        | _ => (false, rest)
      let (k, sawPoint, rest) ← numberTail rest point
      if !sawPoint && k == Constant.whole then
        let text := cs.take (cs.length - rest.length)
        if text.head? == some '0' && text.any (fun c => c.isDigit && c != '0') then none
        else if digits > maxDigits then none
        else pure (k, rest)
      else pure (k, rest)

/-- The prefixes a quoted text may have, in lower case, with whether they make it a byte string
(formatted strings are refused before they are read). -/
def stringPrefix (p : String) : Option (Bool × Bool) :=
  match p with
  | "" | "u" => some (false, false)
  | "r" => some (false, true)
  | "b" => some (true, false)
  | "br" | "rb" => some (true, true)
  | _ => none

/-- The escape after a backslash in a text that is not raw: the rest after it, when it is a
good escape. Hex escapes need all their digits, a code point escape a code point, and a named
escape its braces. Byte strings know only the hex escapes among these. -/
def escape (bytes : Bool) : List Char → Option (List Char)
  | 'x' :: a :: b :: rest => if isHex a && isHex b then some rest else none
  | 'x' :: _ => none
  | 'u' :: rest =>
    if bytes then some rest
    else if (rest.take 4).length == 4 && (rest.take 4).all isHex then some (rest.drop 4) else none
  | 'U' :: rest =>
    if bytes then some rest
    else
      let hex := rest.take 8
      if hex.length == 8 && hex.all isHex && hexValue hex ≤ 0x10FFFF then some (rest.drop 8)
      else none
  | 'N' :: rest =>
    if bytes then some rest
    else match rest with
      | '{' :: more =>
        let name := more.takeWhile (· != '}')
        if name.isEmpty || name.length == more.length then none else some (more.drop (name.length + 1))
      | _ => none
  | _ :: rest => some rest
  | [] => none

/-- The body of a quoted text after its opening quote(s), up to and past its closing quote(s):
what follows it; `fuel` bounds the characters read. -/
def stringBody (quote : Char) (triple raw bytes : Bool) : Nat → List Char → Option (List Char)
  | 0, _ => none
  | _ + 1, [] => none
  | fuel + 1, c :: rest =>
    if c == quote && (!triple || rest.take 2 == [quote, quote]) then
      some (if triple then rest.drop 2 else rest)
    else if c == '\\' then
      match rest with
      | [] => none
      | d :: more =>
        if raw || d == '\n' then
          if bytes && d.toNat ≥ 128 then none else stringBody quote triple raw bytes fuel more
        else do
          let after ← escape bytes (d :: more)
          let skipped := (d :: more).take ((d :: more).length - after.length)
          if bytes && skipped.any (·.toNat ≥ 128) then none
          else stringBody quote triple raw bytes fuel after
    else if c == '\n' && !triple then none
    else if bytes && c.toNat ≥ 128 then none
    else stringBody quote triple raw bytes fuel rest

/-- A quoted text at the start of `cs`, its prefix already read: whether it is a byte string,
and what follows it. -/
def string (bytes raw : Bool) : List Char → Option (Bool × List Char)
  | q :: rest =>
    if q == '"' || q == Text.apostrophe then
      let triple := rest.take 2 == [q, q]
      (stringBody q triple raw bytes (rest.length + 1) (if triple then rest.drop 2 else rest)).map (bytes, ·)
    else none
  | [] => none

def maxNesting : Nat := 200

/-- Pieces of `cs`, inside the open brackets `open_` (innermost first), the pieces so far in
`acc` (reversed), `line` saying the current line holds pieces. -/
def tokens : Nat → List Char → List Char → Bool → List Token → Option (List Token)
  | 0, _, _, _, _ => none
  | _ + 1, [], open_, line, acc =>
    if open_.isEmpty then some (if line then (Token.lineEnd :: acc).reverse else acc.reverse) else none
  | fuel + 1, c :: rest, open_, line, acc =>
    if c == ' ' || c == '\t' || c.toNat == 12 then tokens fuel rest open_ line acc
    else if c == '#' then tokens fuel (rest.dropWhile (· != '\n')) open_ line acc
    else if c == '\\' then
      match rest with
      | '\n' :: more => tokens fuel more open_ line acc
      | _ => none
    else if c == '\n' then
      if open_.isEmpty && line then tokens fuel rest open_ false (.lineEnd :: acc)
      else tokens fuel rest open_ line acc
    else if c == '(' || c == '{' then
      if open_.length ≥ maxNesting then none
      else tokens fuel rest (c :: open_) true (.mark c.toString :: acc)
    else if c == ')' || c == '}' then
      match open_ with
      | o :: outer =>
        if (o == '(' && c == ')') || (o == '{' && c == '}') then
          tokens fuel rest outer true (.mark c.toString :: acc)
        else none
      | [] => none
    else if c == ',' || c == ':' || c == '+' || c == '-' then
      tokens fuel rest open_ true (.mark c.toString :: acc)
    else if c == '.' then
      match rest with
      | '.' :: '.' :: more => tokens fuel more open_ true (.mark "..." :: acc)
      | d :: _ =>
        if d.isDigit then do
          let (k, after) ← number (c :: rest)
          tokens fuel after open_ true (.number k :: acc)
        else none
      | [] => none
    else if c.isDigit then do
      let (k, after) ← number (c :: rest)
      tokens fuel after open_ true (.number k :: acc)
    else if c == '"' || c == Text.apostrophe then do
      let (b, after) ← string false false (c :: rest)
      tokens fuel after open_ true (.string b :: acc)
    else if isNameStart c then
      let word := (c :: rest).takeWhile isNameChar
      let after := (c :: rest).drop word.length
      let quoted := match after with
        | q :: _ => q == '"' || q == Text.apostrophe
        | [] => false
      if quoted then do
        let (bytes, raw) ← stringPrefix (Text.lowerAscii (String.ofList word))
        let (b, after) ← string bytes raw after
        tokens fuel after open_ true (.string b :: acc)
      else tokens fuel after open_ true (.name (String.ofList word) :: acc)
    else none

/-! ## Reading pieces as a value -/

/-- What a piece of the value is, as far as reading it cares: a constant, a signed number
(real or imaginary), a real number plus or minus an imaginary one, a tuple (hashable when all
its elements are), or a set or dictionary. -/
inductive Node where
  | constant (k : Constant)
  | signed (real : Bool)
  | complexSum
  | tuple (hashable : Bool)
  | collection

def Node.hashable : Node → Bool
  | .tuple h => h
  | .collection => false
  | _ => true

def Node.isReal : Node → Bool
  | .constant .whole | .constant .fraction | .signed true => true
  | _ => false

def isNumber (k : Constant) : Bool := k == .whole || k == .fraction || k == .imaginary

mutual
def atom : Nat → List Token → Option (Node × List Token)
  | 0, _ => none
  | fuel + 1, ts =>
    match ts with
    | .number k :: rest => some (.constant k, rest)
    | .string b :: rest =>
      let more := rest.takeWhile fun t => match t with | .string _ => true | _ => false
      if more.all (· == .string b) then
        some (.constant (if b then .bytes else .text), rest.drop more.length)
      else none
    | .name "True" :: rest | .name "False" :: rest => some (.constant .truth, rest)
    | .name "None" :: rest => some (.constant .nothing, rest)
    | .name "set" :: .mark "(" :: .mark ")" :: rest => some (.collection, rest)
    | .mark "..." :: rest => some (.constant .ellipsis, rest)
    | .mark "(" :: .mark ")" :: rest => some (.tuple true, rest)
    | .mark "(" :: rest => do
      let (nodes, comma, rest) ← series fuel rest
      match rest with
      | .mark ")" :: rest =>
        match nodes, comma with
        | [n], false => some (n, rest)
        | _, _ => some (.tuple (nodes.all Node.hashable), rest)
      | _ => none
    | .mark "\x7b" :: .mark "\x7d" :: rest => some (.collection, rest)
    | .mark "\x7b" :: rest => do
      let (first, rest) ← sum fuel rest
      match rest with
      | .mark ":" :: rest => do
        let (_, rest) ← sum fuel rest
        if !first.hashable then none
        entries fuel rest
      | _ => do
        if !first.hashable then none
        members fuel rest
    | _ => none

def factor : Nat → List Token → Option (Node × List Token)
  | 0, _ => none
  | fuel + 1, ts =>
    match ts with
    | .mark "+" :: rest | .mark "-" :: rest => do
      let (n, rest) ← factor fuel rest
      match n with
      | .constant k => if isNumber k then some (.signed (k != .imaginary), rest) else none
      | _ => none
    | _ => atom fuel ts

def sum : Nat → List Token → Option (Node × List Token)
  | 0, _ => none
  | fuel + 1, ts => do
    let (left, rest) ← factor fuel ts
    match rest with
    | .mark "+" :: more | .mark "-" :: more => do
      let (right, rest) ← factor fuel more
      match right with
      | .constant .imaginary =>
        if !left.isReal then none
        match rest with
        | .mark "+" :: _ | .mark "-" :: _ => none
        | _ => some (.complexSum, rest)
      | _ => none
    | _ => some (left, rest)

def series : Nat → List Token → Option (List Node × Bool × List Token)
  | 0, _ => none
  | fuel + 1, ts => do
    let (n, rest) ← sum fuel ts
    match rest with
    | .mark "," :: more =>
      match more with
      | .mark ")" :: _ | .lineEnd :: _ | [] => some ([n], true, more)
      | _ => do
        let (ns, _, rest) ← series fuel more
        some (n :: ns, true, rest)
    | _ => some ([n], false, rest)

/-- The rest of a set after an element: more hashable elements, then `}`. -/
def members : Nat → List Token → Option (Node × List Token)
  | 0, _ => none
  | fuel + 1, ts =>
    match ts with
    | .mark "\x7d" :: rest => some (.collection, rest)
    | .mark "," :: .mark "\x7d" :: rest => some (.collection, rest)
    | .mark "," :: rest => do
      let (n, rest) ← sum fuel rest
      if !n.hashable then none
      members fuel rest
    | _ => none

/-- The rest of a dictionary after an entry: more entries with hashable keys, then `}`. -/
def entries : Nat → List Token → Option (Node × List Token)
  | 0, _ => none
  | fuel + 1, ts =>
    match ts with
    | .mark "\x7d" :: rest => some (.collection, rest)
    | .mark "," :: .mark "\x7d" :: rest => some (.collection, rest)
    | .mark "," :: rest => do
      let (k, rest) ← sum fuel rest
      if !k.hashable then none
      match rest with
      | .mark ":" :: rest => do
        let (_, rest) ← sum fuel rest
        entries fuel rest
      | _ => none
    | _ => none
end

/-- Whether `text` is a literal value, nothing but line ends after it. -/
def isLiteral (text : String) : Bool :=
  let cs := ((text.replace "\r\n" "\n").replace "\r" "\n").toList
  if cs.any fun c => c.toNat == 0 || (Unicode.standsFor c).isSome then false
  else
    match tokens (cs.length + 1) cs [] false [] with
    | none => false
    | some ts =>
      match series (4 * ts.length + 8) ts with
      | some (_, _, rest) => rest.all (· == .lineEnd)
      | none => false

/-- What is read of a handler tag's parameters (see the module note), or nothing. -/
def handlerPart (parameters : String) : Option String :=
  let s := Text.trim parameters
  let cs := s.toList
  let isWord := fun (c : Char) => Unicode.isAlnum c || c == '_' || c == '.'
  match cs.findIdx? (· == '(') with
  | none => if cs.all isWord then none else some s
  | some i =>
    let call := cs.drop i
    if (cs.take i).all isWord && call.getLast? == some ')' && call.length ≥ 2 && !call.contains '\n' then
      some (String.ofList call)
    else some s

def goodParameters (parameters : String) : Bool :=
  match handlerPart parameters with
  | some text => isLiteral text
  | none => true

end DesktopPool.Literal
