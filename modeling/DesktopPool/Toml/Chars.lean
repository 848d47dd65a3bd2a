import DesktopPool.Text.Quoted

/-! Characters of TOML text and scanning over them. A source is an array of characters read
by position; reading past the end gives nothing. Scans move forward only, so each is bounded by
the length of the source. -/
namespace DesktopPool.Toml

abbrev Source := Array Char

def Source.ofString (s : String) : Source := s.toList.toArray

def Source.slice (s : Source) (i j : Nat) : String := String.ofList (s.extract i j).toList

def isControl (c : Char) : Bool := c.toNat < 32 || c.toNat == 127

def isBlank (c : Char) : Bool := c == ' ' || c == '\t'

def isBlankOrNewline (c : Char) : Bool := isBlank c || c == '\n'

def isBareKeyChar (c : Char) : Bool := c.isAlphanum || c == '-' || c == '_'

def isHexDigit (c : Char) : Bool := c.isDigit || ('a' ≤ c && c ≤ 'f') || ('A' ≤ c && c ≤ 'F')

def isOctDigit (c : Char) : Bool := '0' ≤ c && c ≤ '7'

def isBinDigit (c : Char) : Bool := c == '0' || c == '1'

def digitValue (c : Char) : Nat :=
  if c.isDigit then c.toNat - '0'.toNat
  else if 'a' ≤ c && c ≤ 'f' then c.toNat - 'a'.toNat + 10
  else if 'A' ≤ c && c ≤ 'F' then c.toNat - 'A'.toNat + 10
  else 0

def digitsIn (base : Nat) (cs : List Char) : Nat := cs.foldl (fun acc c => acc * base + digitValue c) 0

def skipWhile (s : Source) (p : Char → Bool) (i : Nat) : Nat :=
  if h : i < s.size then if p s[i] then skipWhile s p (i + 1) else i else i
termination_by s.size - i

def startsAt (s : Source) (i : Nat) (w : String) : Bool :=
  (s.extract i (i + w.length)).toList == w.toList

def findFrom (s : Source) (w : String) (i : Nat) : Option Nat :=
  if h : i < s.size then if startsAt s i w then some i else findFrom s w (i + 1) else none
termination_by s.size - i

def firstIn (s : Source) (p : Char → Bool) (i j : Nat) : Option (Nat × Char) :=
  if h : i < j ∧ i < s.size then
    if p s[i] then some (i, s[i]) else firstIn s p (i + 1) j
  else none
termination_by j - i

/-- `D(_?D)*` at `i` for a digit class: the end of the run, or nothing when no digit stands
at `i`. An underscore counts only between two digits. -/
def digitRun (s : Source) (isD : Char → Bool) (i : Nat) : Option Nat :=
  let rec go (j : Nat) : Nat :=
    if h : j < s.size then
      if isD s[j] then go (j + 1)
      else if s[j] == '_' && (s[j + 1]?.map isD).getD false then go (j + 2)
      else j
    else j
  termination_by s.size - j
  if (s[i]?.map isD).getD false then some (go i) else none

def showPath (key : List String) : String :=
  match key with
  | [k] => "(" ++ Text.quote k ++ ",)"
  | _ => "(" ++ ", ".intercalate (key.map Text.quote) ++ ")"

end DesktopPool.Toml
