/-! Binary64 numbers as exact ratios. `decode` splits a double into sign, significand and power
of two; `nearest` rounds a ratio of naturals to the nearest double, ties to the even significand.
Every conversion into a double in the library (decimal text, whole numbers, quotients of whole
numbers) goes through `nearest`, so all of them round alike. Powers of naturals here and in the
other number modules are written `Nat.pow b n` (which is `b ^ n` by `rfl`), so that they
elaborate to the same term whichever algebraic instances are in scope. -/
namespace DesktopPool.Binary

/-- A double taken apart: a finite nonzero value is `m * 2^e` with `0 < m`. -/
inductive Parts where
  | zero (neg : Bool)
  | finite (neg : Bool) (m : Nat) (e : Int)
  | inf (neg : Bool)
  | nan
  deriving Repr, Inhabited

def precision : Nat := 53

def decode (x : Float) : Parts :=
  let b : Nat := x.toBits.toNat
  let neg : Bool := b / Nat.pow 2 63 % 2 == 1
  let biased : Nat := b / Nat.pow 2 52 % 2048
  let frac : Nat := b % Nat.pow 2 52
  if biased == 2047 then
    if frac == 0 then .inf neg else .nan
  else if biased == 0 then
    if frac == 0 then .zero neg else .finite neg frac (-1074)
  else .finite neg (frac + Nat.pow 2 52) ((biased : Int) - 1075)

/-- `num / (den * 2^q)` as quotient and remainder, with the divisor. -/
def scaled (num den : Nat) (q : Int) : Nat × Nat × Nat :=
  let a := if q < 0 then num * Nat.pow 2 q.natAbs else num
  let b := if q < 0 then den else den * Nat.pow 2 q.natAbs
  (a / b, a % b, b)

/-- Round `t + r / b` to a whole number, a half going to the even neighbour. -/
def roundHalfEven (t r b : Nat) : Nat :=
  if 2 * r > b ∨ (2 * r = b ∧ t % 2 = 1) then t + 1 else t

/-- The double nearest to `num / den`, ties to the even significand, or `none` when the ratio
rounds beyond the largest finite double. A zero numerator or denominator gives `0`. -/
def nearest (num den : Nat) : Option Float :=
  if num = 0 ∨ den = 0 then some 0 else
  let q0 : Int := (Nat.log2 num : Int) - Nat.log2 den - 52
  let q1 := if (scaled num den q0).1 < Nat.pow 2 52 then q0 - 1 else q0
  let q := max q1 (-1074)
  let (t, r, b) := scaled num den q
  let t := roundHalfEven t r b
  let (t, q) := if t = Nat.pow 2 53 then (Nat.pow 2 52, q + 1) else (t, q)
  if q > 971 then none
  else
    let bits := if t ≥ Nat.pow 2 52 then (q + 1075).toNat * Nat.pow 2 52 + (t - Nat.pow 2 52) else t
    some (Float.ofBits bits.toUInt64)

def nearestSigned (neg : Bool) (num den : Nat) : Option Float :=
  (nearest num den).map fun x => if neg then -x else x

def ofInt (n : Int) : Option Float :=
  nearestSigned (n < 0) n.natAbs 1

/-- The exact value of a finite double as a signed ratio `num / den`. -/
def ratio (neg : Bool) (m : Nat) (e : Int) : Int × Nat :=
  let num : Nat := if e < 0 then m else m * Nat.pow 2 e.natAbs
  let den : Nat := if e < 0 then Nat.pow 2 e.natAbs else 1
  (if neg then -(num : Int) else num, den)

end DesktopPool.Binary
