import DesktopPool.Value.Basic
import DesktopPool.Number.Read

/-! Reading JSON text into dynamic values. Blanks are space, tab, newline and carriage return.
Numbers with a fraction or an exponent become doubles (the nearest one), others whole numbers;
`NaN`, `Infinity` and `-Infinity` are read too. A repeated key keeps its first place and its last
value. A failure names what was expected and where, as `what: line L column C (char P)`,
positions counted in characters from zero and columns from one; a whole number with more digits
than `NumberText.maxDigits` is refused as too long to convert. -/
namespace DesktopPool.Json

/-- A reading failure: what was expected, at which character, or a whole number of too many
digits. -/
inductive Problem where
  | expected (what : String) (pos : Nat)
  | tooLong (digits : Nat)

abbrev Reading (α : Type) := Except Problem α

def isBlank (c : Char) : Bool := c == ' ' || c == '\t' || c == '\n' || c == '\r'

def skipBlank (s : Array Char) (i : Nat) : Nat :=
  if h : i < s.size then
    if isBlank s[i] then skipBlank s (i + 1) else i
  else i
termination_by s.size - i

def isDigitAt (s : Array Char) (i : Nat) : Bool := (s[i]?.map Char.isDigit).getD false

def skipDigits (s : Array Char) (i : Nat) : Nat :=
  if h : i < s.size then
    if s[i].isDigit then skipDigits s (i + 1) else i
  else i
termination_by s.size - i

def wordAt (s : Array Char) (i : Nat) (word : String) : Bool :=
  (word.toList.zipIdx.all fun (c, k) => s[i + k]? == some c)

def slice (s : Array Char) (i j : Nat) : List Char := ((s.toList.drop i).take (j - i))

/-- A number starting at `i`: its value and the position after it; `none` when none starts
there. An exponent mark is taken only when digits follow it. -/
def number (s : Array Char) (i : Nat) : Option (Reading (Value × Nat)) :=
  let j := if s[i]? == some '-' then i + 1 else i
  let afterInt :=
    if s[j]? == some '0' then some (j + 1)
    else if isDigitAt s j then some (skipDigits s j)
    else none
  match afterInt with
  | none => none
  | some k =>
    let (k, frac) :=
      if s[k]? == some '.' && isDigitAt s (k + 1) then (skipDigits s (k + 1), true) else (k, false)
    let (k, ex) :=
      if k + 1 < s.size && (s[k]? == some 'e' || s[k]? == some 'E') then
        let m := if s[k + 1]? == some '-' || s[k + 1]? == some '+' then k + 2 else k + 1
        let n := skipDigits s m
        if n > m then (n, true) else (k, false)
      else (k, false)
    let text := slice s i k
    if frac || ex then
      let (neg, body) := NumberText.sign text
      match NumberText.unsignedFloat? body false with
      | some (m, e) => some (.ok (.float (NumberText.decimalToFloat neg m e), k))
      | none => none
    else
      let (neg, body) := NumberText.sign text
      if body.length > NumberText.maxDigits then some (.error (.tooLong body.length))
      else (NumberText.digitsValue body false).map fun n => .ok (.int (if neg then -(n : Int) else n), k)

def hexValue (c : Char) : Option Nat :=
  if c.isDigit then some (c.toNat - '0'.toNat)
  else if 'a' ≤ c ∧ c ≤ 'f' then some (c.toNat - 'a'.toNat + 10)
  else if 'A' ≤ c ∧ c ≤ 'F' then some (c.toNat - 'A'.toNat + 10)
  else none

def hex4 (s : Array Char) (i : Nat) : Option Nat :=
  [0, 1, 2, 3].foldlM (fun acc k => (s[i + k]?.bind hexValue).map (acc * 16 + ·)) 0

/-- The rest of a text whose opening quote stands at `begin`, from `i` on; the characters read
so far are `acc`, reversed. A lone surrogate escape reads as its stand-in
(`Unicode.surrogateStandIn`). -/
def text (s : Array Char) (begin : Nat) (i : Nat) (acc : List Char) : Reading (String × Nat) :=
  if h : i < s.size then
    let c := s[i]
    if c == '"' then .ok (String.ofList acc.reverse, i + 1)
    else if c.toNat ≤ 0x1f then .error (.expected "Invalid control character at" i)
    else if c != '\\' then text s begin (i + 1) (c :: acc)
    else if i + 1 ≥ s.size then .error (.expected "Unterminated string starting at" begin)
    else
      let e := s[i + 1]?.getD ' '
      if e != 'u' then
        let decoded : Option Char := match e with
          | '"' => some '"' | '\\' => some '\\' | '/' => some '/'
          | 'b' => some (Char.ofNat 8) | 'f' => some (Char.ofNat 12)
          | 'n' => some '\n' | 'r' => some '\r' | 't' => some '\t'
          | _ => none
        match decoded with
        | some d => text s begin (i + 2) (d :: acc)
        | none => .error (.expected "Invalid \\escape" i)
      else if i + 6 ≥ s.size then .error (.expected "Invalid \\uXXXX escape" (i + 1))
      else
        match hex4 s (i + 2) with
        | none => .error (.expected "Invalid \\uXXXX escape" (i + 1))
        | some u =>
          if 0xD800 ≤ u ∧ u ≤ 0xDBFF ∧ i + 12 < s.size ∧ s[i + 6]? == some '\\' ∧
              s[i + 7]? == some 'u' then
            match hex4 s (i + 8) with
            | none => .error (.expected "Invalid \\uXXXX escape" (i + 7))
            | some low =>
              if 0xDC00 ≤ low ∧ low ≤ 0xDFFF then
                text s begin (i + 12)
                  (Char.ofNat (0x10000 + (u - 0xD800) * 0x400 + (low - 0xDC00)) :: acc)
              else text s begin (i + 6) (Unicode.surrogateStandIn u :: acc)
          else if 0xD800 ≤ u ∧ u ≤ 0xDFFF then text s begin (i + 6) (Unicode.surrogateStandIn u :: acc)
          else text s begin (i + 6) (Char.ofNat u :: acc)
  else .error (.expected "Unterminated string starting at" begin)
termination_by s.size - i

mutual
/-- A value starting at `i`, and the position after it. `fuel` bounds the nesting. -/
def value (s : Array Char) (fuel : Nat) (i : Nat) : Reading (Value × Nat) :=
  match fuel with
  | 0 => .error (.expected "Expecting value" i)
  | fuel + 1 =>
    match s[i]? with
    | some '"' => (text s i (i + 1) []).map fun (t, j) => (.str t, j)
    | some '{' =>
      let j := skipBlank s (i + 1)
      if s[j]? == some '}' then .ok (.table [], j + 1) else members s fuel j []
    | some '[' =>
      let j := skipBlank s (i + 1)
      if s[j]? == some ']' then .ok (.list [], j + 1) else elements s fuel j []
    | some 'n' => if wordAt s i "null" then .ok (.null, i + 4) else .error (.expected "Expecting value" i)
    | some 't' => if wordAt s i "true" then .ok (.bool true, i + 4) else .error (.expected "Expecting value" i)
    | some 'f' => if wordAt s i "false" then .ok (.bool false, i + 5) else .error (.expected "Expecting value" i)
    | some 'N' => if wordAt s i "NaN" then .ok (.float (0.0 / 0.0), i + 3) else .error (.expected "Expecting value" i)
    | some 'I' =>
      if wordAt s i "Infinity" then .ok (.float (1.0 / 0.0), i + 8) else .error (.expected "Expecting value" i)
    | some '-' =>
      if wordAt s i "-Infinity" then .ok (.float (-(1.0 / 0.0)), i + 9)
      else (number s i).getD (.error (.expected "Expecting value" i))
    | some _ => (number s i).getD (.error (.expected "Expecting value" i))
    | none => .error (.expected "Expecting value" i)

def members (s : Array Char) (fuel : Nat) (i : Nat) (acc : List (String × Value)) :
    Reading (Value × Nat) :=
  match fuel with
  | 0 => .error (.expected "Expecting value" i)
  | fuel + 1 =>
    if s[i]? != some '"' then .error (.expected "Expecting property name enclosed in double quotes" i)
    else match text s i (i + 1) [] with
      | .error p => .error p
      | .ok (key, j) =>
        let j := skipBlank s j
        if s[j]? != some ':' then .error (.expected "Expecting ':' delimiter" j)
        else match value s fuel (skipBlank s (j + 1)) with
          | .error p => .error p
          | .ok (v, k) =>
            let k := skipBlank s k
            let acc := Table.set acc key v
            if s[k]? == some '}' then .ok (.table acc, k + 1)
            else if s[k]? != some ',' then .error (.expected "Expecting ',' delimiter" k)
            else members s fuel (skipBlank s (k + 1)) acc

def elements (s : Array Char) (fuel : Nat) (i : Nat) (acc : List Value) : Reading (Value × Nat) :=
  match fuel with
  | 0 => .error (.expected "Expecting value" i)
  | fuel + 1 =>
    match value s fuel i with
    | .error p => .error p
    | .ok (v, k) =>
      let k := skipBlank s k
      if s[k]? == some ']' then .ok (.list (v :: acc).reverse, k + 1)
      else if s[k]? != some ',' then .error (.expected "Expecting ',' delimiter" k)
      else elements s fuel (skipBlank s (k + 1)) (v :: acc)
end

def lineColumn (s : Array Char) (pos : Nat) : Nat × Nat :=
  let before := s.toList.take pos
  let line := before.count '\n' + 1
  let col := match (before.zipIdx.filter (·.1 == '\n')).getLast? with
    | some (_, k) => pos - k
    | none => pos + 1
  (line, col)

def Problem.describe (s : Array Char) : Problem → String
  | .expected what pos =>
    let (line, col) := lineColumn s pos
    s!"{what}: line {line} column {col} (char {pos})"
  | .tooLong digits => NumberText.tooLongMessage digits

/-- Read a whole JSON text: one value with blanks around it. -/
def readValue (t : String) : Except Problem Value :=
  let s := t.toList.toArray
  if s[0]? == some (Char.ofNat 0xFEFF) then
    .error (.expected "Unexpected UTF-8 BOM (decode using utf-8-sig)" 0)
  else
    match value s (3 * s.size + 3) (skipBlank s 0) with
    | .error p => .error p
    | .ok (v, j) =>
      let j := skipBlank s j
      if j != s.size then .error (.expected "Extra data" j) else .ok v

def read (t : String) : Except String Value :=
  (readValue t).mapError (Problem.describe t.toList.toArray)

end DesktopPool.Json
