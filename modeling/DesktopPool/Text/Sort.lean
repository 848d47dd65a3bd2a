import DesktopPool.Text.Unicode

/-! Text in code point order, and sets of text as sorted lists without repeats. A stand-in for a
lone surrogate (`Unicode.surrogateStandIn`) is ordered as that surrogate: after `U+D7FF` and
before `U+E000`. -/
namespace DesktopPool.Text

/-- The code point a character is ordered by: its own, or the lone surrogate it stands for. -/
def codePoint (c : Char) : Nat := (Unicode.standsFor c).getD c.toNat

/-- Texts as lists of characters compared by code points, the first difference deciding; a
text before every longer text it begins. -/
def compareChars : List Char → List Char → Ordering
  | [], [] => .eq
  | [], _ :: _ => .lt
  | _ :: _, [] => .gt
  | x :: xs, y :: ys => if x == y then compareChars xs ys else compare (codePoint x) (codePoint y)

def compareText (a b : String) : Ordering := compareChars a.toList b.toList

def sorted (xs : List String) : List String := xs.mergeSort fun a b => compareText b a != .lt

def dropRepeats : List String → List String
  | a :: b :: rest => if a == b then dropRepeats (b :: rest) else a :: dropRepeats (b :: rest)
  | xs => xs

def setOf (xs : List String) : List String := dropRepeats (sorted xs)

end DesktopPool.Text
