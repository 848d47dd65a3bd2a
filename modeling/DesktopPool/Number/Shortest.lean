import DesktopPool.Number.Binary

/-! Shortest decimal significands of doubles. For a finite positive double `m * 2^e`,
`Shortest.digits` returns `d` and `p` such that `d * 10^p` lies in the interval of reals that
read back as the double (ends included when `m` is even), `d` has the fewest digits, and of two
such values the nearer one is taken, an exact tie going to the even `d`. The search tests, for
one to seventeen digits, the two grid points around the value; if any point of a grid lies in
the interval, one of those two does, because the interval is convex and holds the value. -/
namespace DesktopPool.Shortest

def digitCount (n : Nat) : Nat := (Nat.toDigits 10 n).length

/-- `d * 10^p` compared with `x * 2^k`, in exact arithmetic. -/
def cmpGrid (d : Nat) (p : Int) (x : Nat) (k : Int) : Ordering :=
  let lhs := d * Nat.pow 10 (if p < 0 then 0 else p.natAbs) * Nat.pow 2 (if k < 0 then k.natAbs else 0)
  let rhs := x * Nat.pow 10 (if p < 0 then p.natAbs else 0) * Nat.pow 2 (if k < 0 then 0 else k.natAbs)
  compare lhs rhs

/-- The exponent of the leading decimal digit of `m * 2^e`, for `0 < m`. -/
def leadExponent (m : Nat) (e : Int) : Int :=
  if 0 ≤ e then (digitCount (m * Nat.pow 2 e.natAbs) : Int) - 1
  else
    let den := Nat.pow 2 e.natAbs
    if den ≤ m then (digitCount (m / den) : Int) - 1
    else
      let j0 := digitCount den - digitCount m
      let j := if m * Nat.pow 10 j0 ≥ den then j0 else j0 + 1
      Int.neg j

def stripZeros (d : Nat) (p : Int) : Nat × Int :=
  if h : 0 < d ∧ d % 10 = 0 then
    have : d / 10 < d := Nat.div_lt_self h.1 (by decide)
    stripZeros (d / 10) (p + 1)
  else (d, p)
termination_by d

/-- The reading interval of `m * 2^e` in units of `2^(e-2)`: lower end, upper end, and whether
the ends belong to it. The gap below halves at the first significand of a binade. -/
def interval (m : Nat) (e : Int) : Nat × Nat × Bool :=
  let lo := if m = Nat.pow 2 52 ∧ e > -1074 then 4 * m - 1 else 4 * m - 2
  (lo, 4 * m + 2, m % 2 == 0)

def readsBack (m : Nat) (e : Int) (d : Nat) (p : Int) : Bool :=
  let (lo, hi, closed) := interval m e
  let above := cmpGrid d p lo (e - 2)
  let below := cmpGrid d p hi (e - 2)
  (above == .gt || (closed && above == .eq)) && (below == .lt || (closed && below == .eq))

def floorOnGrid (m : Nat) (e : Int) (p : Int) : Nat :=
  let num := 4 * m * Nat.pow 2 (if e - 2 < 0 then 0 else (e - 2).natAbs) *
    Nat.pow 10 (if p < 0 then p.natAbs else 0)
  let den := Nat.pow 2 (if e - 2 < 0 then (e - 2).natAbs else 0) * Nat.pow 10 (if p < 0 then 0 else p.natAbs)
  num / den

/-- Of the two grid points around the value, the one that is nearer, a tie going to even. -/
def nearerOf (m : Nat) (e : Int) (dLo : Nat) (p : Int) : Nat :=
  match cmpGrid (2 * dLo + 1) p (8 * m) (e - 2) with
  | .gt => dLo
  | .lt => dLo + 1
  | .eq => if dLo % 2 = 0 then dLo else dLo + 1

/-- The reading value on the grid of `k` significant digits, if one of the two neighbours is. -/
def onGrid (m : Nat) (e : Int) (k : Nat) : Option (Nat × Int) :=
  let p := leadExponent m e - k + 1
  let dLo := floorOnGrid m e p
  match readsBack m e dLo p, readsBack m e (dLo + 1) p with
  | true, true => some (nearerOf m e dLo p, p)
  | true, false => some (dLo, p)
  | false, true => some (dLo + 1, p)
  | false, false => none

/-- Shortest significand and exponent of the finite positive double `m * 2^e`. -/
def digits (m : Nat) (e : Int) : Nat × Int :=
  let found := (List.range 17).findSome? fun i => onGrid m e (i + 1)
  let (d, p) := found.getD
    (let p := leadExponent m e - 16
     (nearerOf m e (floorOnGrid m e p) p, p))
  stripZeros d p

end DesktopPool.Shortest
