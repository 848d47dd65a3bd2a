import DesktopPool.Number.Shortest

/-! Text of doubles. `FloatText.render` writes the shortest decimal that reads back, in the
layout fixed by one `Layout` record; `fixed` writes a double with a fixed number of places,
rounding the exact binary value half to even. -/
namespace DesktopPool.FloatText

/-- Where the decimal point may stand in positional text, and how the rest is spelt. -/
structure Layout where
  /-- Positional text when `lowPoint < point ≤ highPoint`, the point counted from the first digit. -/
  lowPoint : Int
  highPoint : Int
  /-- A whole number keeps a point and one zero. -/
  pointZero : Bool
  /-- Least number of exponent digits. -/
  expDigits : Nat
  infText : String
  nanText : String

/-- Shortest text: positional from `0.0001` up to sixteen integer digits, `e±XX` beyond,
whole numbers keep `.0`, and the non-finite values are `inf` and `nan`. -/
def standard : Layout := ⟨-4, 16, true, 2, "inf", "nan"⟩

def zeros (n : Nat) : String := String.ofList (List.replicate n '0')

/-- A digit string with the point after `point` digits, under a layout. -/
def place (l : Layout) (s : String) (point : Int) : String :=
  let n := s.length
  if l.lowPoint < point ∧ point ≤ l.highPoint then
    if point ≤ 0 then "0." ++ zeros point.natAbs ++ s
    else if n ≤ point.toNat then s ++ zeros (point.toNat - n) ++ (if l.pointZero then ".0" else "")
    else String.ofList (s.toList.take point.toNat) ++ "." ++ String.ofList (s.toList.drop point.toNat)
  else
    let ex := point - 1
    let exText := toString ex.natAbs
    let exText := zeros (l.expDigits - exText.length) ++ exText
    let lead := String.ofList (s.toList.take 1)
    let rest := String.ofList (s.toList.drop 1)
    lead ++ (if rest.isEmpty then "" else "." ++ rest) ++ "e" ++ (if ex < 0 then "-" else "+") ++ exText

def renderWith (l : Layout) (x : Float) : String :=
  match Binary.decode x with
  | .nan => l.nanText
  | .inf neg => (if neg then "-" else "") ++ l.infText
  | .zero neg => (if neg then "-" else "") ++ place l "0" 1
  | .finite neg m e =>
    let (d, p) := Shortest.digits m e
    let s := toString d
    (if neg then "-" else "") ++ place l s (p + s.length)

def render (x : Float) : String := renderWith standard x

/-- A double with `places` digits after the point, the exact value rounded half to even;
the sign of a negative value (or negative zero) is kept even when all digits are zero. -/
def fixed (x : Float) (places : Nat) : String :=
  let withPoint (s : String) : String :=
    let s := zeros (places + 1 - s.length) ++ s
    if places = 0 then s
    else String.ofList (s.toList.take (s.length - places)) ++ "." ++
      String.ofList (s.toList.drop (s.length - places))
  match Binary.decode x with
  | .nan => "nan"
  | .inf neg => if neg then "-inf" else "inf"
  | .zero neg => (if neg then "-" else "") ++ withPoint "0"
  | .finite neg m e =>
    let num := m * Nat.pow 10 places * Nat.pow 2 (if e < 0 then 0 else e.natAbs)
    let den := Nat.pow 2 (if e < 0 then e.natAbs else 0)
    let n := Binary.roundHalfEven (num / den) (num % den) den
    (if neg then "-" else "") ++ withPoint (toString n)

end DesktopPool.FloatText
