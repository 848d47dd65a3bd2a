import DesktopPool.Value.Basic
import DesktopPool.Number.Text
import DesktopPool.Text.Quoted
import DesktopPool.Text.Sort

/-! Writing dynamic values as JSON text. Text is written in ASCII: the quote and backslash are
escaped, the usual control characters get their letters, and every other character outside
printable ASCII becomes `\uXXXX` (two of them, a surrogate pair, above the basic plane; a
stand-in for a lone surrogate gives back that surrogate, `Unicode.standsFor`). Doubles
use their shortest text. A `Style` fixes the separators, whether table keys are sorted, and
whether non-finite doubles are written as the words `Infinity` and `NaN` or as quoted text. A
moment, which JSON has no form for, is written as the text of its quoted form. -/
namespace DesktopPool.Json

structure Style where
  itemSep : String
  keySep : String
  sortKeys : Bool
  /-- Non-finite doubles as the texts `"inf"`, `"-inf"`, `"nan"` instead of bare words. -/
  nonFiniteAsText : Bool

/-- Separators `, ` and `: `, keys in table order, bare words for non-finite doubles. -/
def plain : Style := ⟨", ", ": ", false, false⟩

def escapeChar (c : Char) : String :=
  let n := c.toNat
  if c == '"' then "\\\""
  else if c == '\\' then "\\\\"
  else if c == '\n' then "\\n"
  else if c == '\r' then "\\r"
  else if c == '\t' then "\\t"
  else if n == 8 then "\\b"
  else if n == 12 then "\\f"
  else if 0x20 ≤ n ∧ n < 0x7F then c.toString
  else if let some u := Unicode.standsFor c then "\\u" ++ Text.hexDigits 4 u
  else if n < 0x10000 then "\\u" ++ Text.hexDigits 4 n
  else
    let m := n - 0x10000
    "\\u" ++ Text.hexDigits 4 (0xD800 + m / 0x400) ++ "\\u" ++ Text.hexDigits 4 (0xDC00 + m % 0x400)

def quoteText (s : String) : String := "\"" ++ String.join (s.toList.map escapeChar) ++ "\""

def floatText (st : Style) (x : Float) : String :=
  if x.isNaN then (if st.nonFiniteAsText then "\"nan\"" else "NaN")
  else if x.isInf then
    if x > 0 then (if st.nonFiniteAsText then "\"inf\"" else "Infinity")
    else (if st.nonFiniteAsText then "\"-inf\"" else "-Infinity")
  else FloatText.render x

/-- Rendered table entries, sorted by key when the style asks. -/
def joinEntries (st : Style) (entries : List (String × String)) : String :=
  let entries := if st.sortKeys then entries.mergeSort fun a b => Text.compareText a.1 b.1 != .gt else entries
  st.itemSep.intercalate (entries.map fun (k, v) => quoteText k ++ st.keySep ++ v)

mutual
def write (st : Style) : Value → String
  | .null => "null"
  | .bool b => if b then "true" else "false"
  | .int n => toString n
  | .float x => floatText st x
  | .str s => quoteText s
  | .list xs => "[" ++ st.itemSep.intercalate (writeList st xs) ++ "]"
  | .table kvs => "\x7b" ++ joinEntries st (writeEntries st kvs) ++ "\x7d"
  | .moment m => quoteText m.repr

def writeList (st : Style) : List Value → List String
  | [] => []
  | x :: xs => write st x :: writeList st xs

def writeEntries (st : Style) : List (String × Value) → List (String × String)
  | [] => []
  | (k, v) :: rest => (k, write st v) :: writeEntries st rest
end

end DesktopPool.Json
