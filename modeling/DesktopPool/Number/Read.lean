import DesktopPool.Number.Binary
import DesktopPool.Number.Shortest
import DesktopPool.Text.Blank

/-! Reading numbers from text. The text is first put in ASCII form (`asciiForm`): a blank of any
script becomes a space and a decimal digit of any script its ASCII digit. Whole numbers: optional
spaces, an optional sign, decimal digits with single underscores allowed between digits,
optional spaces; more than 4300 digits are refused, as too long to convert. Decimal fractions
add a point, an exponent, and the words `inf`, `infinity` and `nan` in any case; the value is
the double nearest to the exact decimal (`Binary.nearest`). -/
namespace DesktopPool.NumberText

/-- Digits, with single underscores between digits when `grouped`. -/
def digitsValue (cs : List Char) (grouped : Bool) : Option Nat :=
  let rec go : List Char → Bool → Nat → Option Nat
    | [], afterDigit, acc => if afterDigit then some acc else none
    | c :: rest, afterDigit, acc =>
      if c.isDigit then go rest true (acc * 10 + (c.toNat - '0'.toNat))
      else if c == '_' && grouped && afterDigit then
        match rest with
        | d :: _ => if d.isDigit then go rest false acc else none
        | [] => none
      else none
  if cs.isEmpty then none else go cs false 0

/-- A sign in front: whether it is minus, and the rest. -/
def sign (cs : List Char) : Bool × List Char :=
  match cs with
  | '-' :: rest => (true, rest)
  | '+' :: rest => (false, rest)
  | _ => (false, cs)

/-- Text as the number readers see it: a blank of any script becomes a space, a decimal digit of
any script its ASCII digit, and any other non-ASCII character a `?`, which no number holds. -/
def asciiForm (s : String) : List Char :=
  s.toList.map fun c =>
    if c.toNat < 128 then c
    else if Text.isBlank c then ' '
    else match Unicode.decimalValue c with
      | some d => Char.ofNat (48 + d)
      | none => '?'

/-- The spaces number readers skip: the space, tab, line feed, vertical tab, form feed and
carriage return. -/
def isSpace (c : Char) : Bool := c == ' ' || (9 ≤ c.toNat && c.toNat ≤ 13)

/-- The most digits a whole number in text may have. -/
def maxDigits : Nat := 4300

/-- What reading a whole number gives: its value, a text that is no whole number, or a number
with more digits than `maxDigits`. -/
inductive Whole where
  | value (n : Int)
  | invalid
  | tooLong (digits : Nat)

/-- The refusal of a whole number of `digits` digits. -/
def tooLongMessage (digits : Nat) : String :=
  s!"Exceeds the limit ({maxDigits} digits) for integer string conversion: value has {digits} digits; use sys.set_int_max_str_digits() to increase the limit"

/-- A whole number in text, spaces around it allowed. The digits and underscores after the sign
are checked first, then their number, then what follows them. -/
def readWhole (s : String) : Whole :=
  let (neg, body) := sign ((asciiForm s).dropWhile isSpace)
  let run := body.takeWhile fun c => c.isDigit || c == '_'
  let digits := (run.filter Char.isDigit).length
  let underscoresOk := run.head? != some '_' && run.getLast? != some '_' &&
    !(run.zip run.tail).any (fun (a, b) => a == '_' && b == '_')
  if !underscoresOk then .invalid
  else if digits > maxDigits then .tooLong digits
  else if digits == 0 || !(body.drop run.length).all isSpace then .invalid
  else match digitsValue run true with
    | some n => .value (if neg then -(n : Int) else n)
    | none => .invalid

/-- A whole number in text, when it is one. -/
def readInt? (s : String) : Option Int :=
  match readWhole s with
  | .value n => some n
  | _ => none

/-- The double nearest to `±m * 10^exp`; far exponents give zero or infinity directly. -/
def decimalToFloat (neg : Bool) (m : Nat) (exp : Int) : Float :=
  let inf : Float := if neg then -(1.0 / 0.0) else 1.0 / 0.0
  let zero : Float := if neg then -0.0 else 0.0
  if m = 0 then zero
  else
    let lead := exp + Shortest.digitCount m
    if lead > 400 then inf
    else if lead < -400 then zero
    else
      let r := if exp < 0 then Binary.nearestSigned neg m (Nat.pow 10 exp.natAbs)
        else Binary.nearestSigned neg (m * Nat.pow 10 exp.natAbs) 1
      r.getD inf

/-- Split `digits [. digits]` into significand and exponent; either side of the point may be
empty, not both. -/
def mantissa (cs : List Char) (grouped : Bool) : Option (Nat × Int) :=
  let whole := cs.takeWhile (· != '.')
  let rest := cs.dropWhile (· != '.')
  match rest with
  | [] => (digitsValue whole grouped).map fun n => (n, 0)
  | _ :: frac =>
    if whole.isEmpty && frac.isEmpty then none
    else
      let w := if whole.isEmpty then some 0 else digitsValue whole grouped
      let f := if frac.isEmpty then some 0 else digitsValue frac grouped
      let fracLen := (frac.filter (· != '_')).length
      match w, f with
      | some w, some f => some (w * Nat.pow 10 fracLen + f, -(fracLen : Int))
      | _, _ => none

/-- A decimal fraction without blanks or sign. -/
def unsignedFloat? (cs : List Char) (grouped : Bool) : Option (Nat × Int) :=
  let body := cs.takeWhile fun c => c != 'e' && c != 'E'
  let ex := cs.dropWhile fun c => c != 'e' && c != 'E'
  match mantissa body grouped, ex with
  | some (m, e), [] => some (m, e)
  | some (m, e), _ :: rest =>
    let (eneg, edigits) := sign rest
    (digitsValue edigits grouped).map fun k => (m, e + (if eneg then -(k : Int) else k))
  | none, _ => none

/-- Whether every underscore sits between two digits. -/
def underscoresBetweenDigits (cs : List Char) : Bool :=
  let before := ' ' :: cs
  let after := cs.tail ++ [' ']
  ((before.zip cs).zip after).all fun ((b, c), a) => c != '_' || (b.isDigit && a.isDigit)

/-- A double in text, spaces around it allowed. -/
def readFloat? (s : String) : Option Float :=
  let cs := ((asciiForm s).dropWhile isSpace).reverse.dropWhile isSpace |>.reverse
  if !underscoresBetweenDigits cs then none
  else
    let (neg, body) := sign (cs.filter (· != '_'))
    let word := Text.lowerAscii (String.ofList body)
    if word == "inf" || word == "infinity" then
      some (if neg then -(1.0 / 0.0) else 1.0 / 0.0)
    else if word == "nan" then some (0.0 / 0.0)
    else (unsignedFloat? body false).map fun (m, e) => decimalToFloat neg m e

end DesktopPool.NumberText
