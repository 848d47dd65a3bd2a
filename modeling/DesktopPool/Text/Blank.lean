import DesktopPool.Text.Unicode

/-! Character classes of Unicode text: blanks (the characters with bidirectional class
whitespace, segment or paragraph separator, or general category space separator) and the
characters that are written as escapes when text is quoted (those that do not print). -/
namespace DesktopPool.Text

/-- Blank characters: the ASCII tabs, line and page breaks, the four information separators,
the space, next-line, no-break space, and the Unicode space and line separators. -/
def isBlank (c : Char) : Bool :=
  let n := c.toNat
  (9 ≤ n ∧ n ≤ 13) || (28 ≤ n ∧ n ≤ 32) || n == 0x85 || n == 0xA0 || n == 0x1680 ||
    (0x2000 ≤ n ∧ n ≤ 0x200A) || n == 0x2028 || n == 0x2029 || n == 0x202F || n == 0x205F ||
    n == 0x3000

/-- Characters that quoted text shows as escapes: those that do not print. -/
def isHidden (c : Char) : Bool := !Unicode.printable c

def trim (s : String) : String :=
  String.ofList ((s.toList.dropWhile isBlank).reverse.dropWhile isBlank).reverse

def words (s : String) : List String :=
  let rec go : List Char → List Char → List String
    | [], acc => if acc.isEmpty then [] else [String.ofList acc.reverse]
    | c :: cs, acc =>
      if isBlank c then (if acc.isEmpty then go cs [] else String.ofList acc.reverse :: go cs [])
      else go cs (c :: acc)
  go s.toList []

def lowerAscii (s : String) : String := String.map Char.toLower s

end DesktopPool.Text
