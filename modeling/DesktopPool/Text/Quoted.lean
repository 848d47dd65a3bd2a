import DesktopPool.Text.Blank

/-! Quoted text, as messages show a name or a value: single quotes, or double quotes when the
text holds a single quote and no double quote. Inside, the backslash and the chosen quote are
escaped, tab, newline and carriage return get their letters, and the other hidden characters
(`isHidden`) are written as `\xNN`, `\uNNNN` or `\UNNNNNNNN` in lower-case hex. -/
namespace DesktopPool.Text

/-- The single quote. -/
def apostrophe : Char := Char.ofNat 39

def hexDigits (width n : Nat) : String :=
  let s := String.ofList (Nat.toDigits 16 n)
  String.ofList (List.replicate (width - s.length) '0') ++ s

def escapeChar (quote : Char) (c : Char) : String :=
  if c == '\\' then "\\\\"
  else if c == quote then "\\" ++ c.toString
  else if c == '\t' then "\\t"
  else if c == '\n' then "\\n"
  else if c == '\r' then "\\r"
  else if let some u := Unicode.standsFor c then "\\u" ++ hexDigits 4 u
  else if isHidden c then
    let n := c.toNat
    if n < 0x100 then "\\x" ++ hexDigits 2 n
    else if n < 0x10000 then "\\u" ++ hexDigits 4 n
    else "\\U" ++ hexDigits 8 n
  else c.toString

/-- The quote character a text is shown in. -/
def quoteFor (s : String) : Char :=
  if s.contains apostrophe && !s.contains '"' then '"' else apostrophe

def quote (s : String) : String :=
  let q := quoteFor s
  q.toString ++ String.join (s.toList.map (escapeChar q)) ++ q.toString

end DesktopPool.Text
