import DesktopPool.Value.Basic
import DesktopPool.Number.Text
import DesktopPool.Text.Quoted

/-! Data written out as TOML, in the layout a fresh document gets. Text is a double-quoted
string with control characters, quotes and backslashes escaped (other characters, beyond ASCII
too, are kept); keys are bare when they are made of ASCII letters, digits, `-` and `_`, quoted
otherwise. Numbers, truth values, moments (in their standard form, UTC as `Z`) and lists are
written on one line (`[1, 2]`, a table inside a list as `{a = 1}`); a table is a section of its
own, and a list of tables an array of sections.

Entries keep the order of the data, but for one rule: a new plain entry of a table that already
has sections goes before the first of them, and a table standing there then starts on a line of
its own. A new section put into a table after other entries starts with a blank line, unless
what comes before it already ends with one. The sections of an array follow one another with no
blank line between them. A table whose entries are all sections is not written as a header of
its own, only its sections are. -/
namespace DesktopPool.Toml

/-- How a value is laid out: on one line, as a section, or as an array of sections. A section
has its indent (the text before its header) and whether a blank line closes it. -/
inductive Fresh where
  | line (text : String)
  | table (indent : String) (entries : List (String × Fresh)) (blankAfter : Bool)
  | tables (sections : List (String × List (String × Fresh)))
  deriving Inhabited

namespace Fresh

def isSection : Fresh → Bool
  | .line _ => false
  | _ => true

/-- A section whose entries all are sections: only they are written. -/
def isOnlySections : Fresh → Bool
  | .table _ entries _ => !entries.isEmpty && entries.all (·.2.isSection)
  | _ => false

def endsBlank : Fresh → Bool
  | .table _ _ b => b
  | _ => false

def indent : Fresh → String
  | .table i _ _ => i
  | .tables ((i, _) :: _) => i
  | _ => ""

def withIndent (v : Fresh) (i : String) : Fresh :=
  match v with
  | .table _ es b => .table i es b
  | .tables ((_, es) :: rest) => .tables ((i, es) :: rest)
  | other => other

end Fresh

def escapeBasic (c : Char) : String :=
  if c == '"' then "\\\""
  else if c == '\\' then "\\\\"
  else if c.toNat == 8 then "\\b"
  else if c == '\t' then "\\t"
  else if c == '\n' then "\\n"
  else if c.toNat == 12 then "\\f"
  else if c == '\r' then "\\r"
  else if c.toNat < 0x20 || c.toNat == 0x7F then "\\u" ++ Text.hexDigits 4 c.toNat
  else c.toString

def basicString (s : String) : String := "\"" ++ String.join (s.toList.map escapeBasic) ++ "\""

def isBareKey (k : String) : Bool :=
  !k.isEmpty && k.toList.all fun c => c.isAlphanum || c == '-' || c == '_'

def keyText (k : String) : String := if isBareKey k then k else basicString k

/-- A section placed after `entries`: it opens with a blank line unless it is the first entry,
already has an indent, or follows a section that ends with one. -/
def placeSection (entries : List (String × Fresh)) (v : Fresh) : Fresh :=
  let prevBlank := match entries.getLast? with
    | some (_, p) => p.endsBlank
    | none => false
  if !entries.isEmpty && v.indent.isEmpty && !prevBlank then v.withIndent "\n" else v

/-- `entries` with a table at position `i` that must start on a line of its own (an array of
sections has no line of its own to start: its first section keeps its indent). -/
def openSectionAt (entries : List (String × Fresh)) (i : Nat) : List (String × Fresh) :=
  entries.modify i fun (k, v) =>
    match v with
    | .table .. => if v.indent.contains '\n' then (k, v) else (k, v.withIndent ("\n" ++ v.indent))
    | _ => (k, v)

/-- An entry added to a fresh table: sections at the end, plain entries before the first
section. -/
def addEntry (entries : List (String × Fresh)) (k : String) (v : Fresh) : List (String × Fresh) :=
  if v.isSection then entries ++ [(k, placeSection entries v)]
  else
    match entries.findIdx? (·.2.isSection) with
    | some i => (openSectionAt entries i).insertIdx i (k, v)
    | none => entries ++ [(k, v)]

/-- Whether a list is written as an array of sections: it is not empty and holds only tables. -/
def allTables (xs : List Value) : Bool :=
  !xs.isEmpty && xs.all fun x => match x with | .table _ => true | _ => false

mutual
/-- The one-line text of a value inside a list or an inline table. -/
def inlineText (fuel : Nat) (v : Value) : Outcome String :=
  match fuel with
  | 0 => fail .wrongType "nesting too deep"
  | fuel + 1 =>
    match v with
    | .null => fail (.tomlLayout "ConvertError") "Unable to convert an object of <class 'NoneType'> to a TOML item"
    | .bool b => pure (if b then "true" else "false")
    | .int n => pure (toString n)
    | .float x => pure (FloatText.render x)
    | .str s => pure (basicString s)
    | .list xs => do pure ("[" ++ ", ".intercalate (← inlineList fuel xs) ++ "]")
    | .table kvs => do pure ("\x7b" ++ ", ".intercalate (← inlineEntries fuel kvs) ++ "\x7d")
    | .moment m => pure (m.iso.replace "+00:00" "Z")

def inlineList (fuel : Nat) : List Value → Outcome (List String)
  | [] => pure []
  | x :: rest => do pure ((← inlineText fuel x) :: (← inlineList fuel rest))

def inlineEntries (fuel : Nat) : List (String × Value) → Outcome (List String)
  | [] => pure []
  | (k, x) :: rest => do
    pure ((keyText k ++ " = " ++ (← inlineText fuel x)) :: (← inlineEntries fuel rest))
end

mutual
/-- The layout of a value as an entry of a table. -/
def fresh (fuel : Nat) (v : Value) : Outcome Fresh :=
  match fuel with
  | 0 => fail .wrongType "nesting too deep"
  | fuel + 1 =>
    match v with
    | .table kvs => do pure (.table "" (← freshEntries fuel kvs []) false)
    | .list xs =>
      if allTables xs then do pure (.tables (← freshSections fuel xs))
      else do pure (.line (← inlineText (fuel + 1) v))
    | _ => do pure (.line (← inlineText (fuel + 1) v))

def freshEntries (fuel : Nat) (kvs : List (String × Value)) (acc : List (String × Fresh)) :
    Outcome (List (String × Fresh)) :=
  match kvs with
  | [] => pure acc
  | (k, x) :: rest => do freshEntries fuel rest (addEntry acc k (← fresh fuel x))

def freshSections (fuel : Nat) (xs : List Value) :
    Outcome (List (String × List (String × Fresh))) :=
  match xs with
  | [] => pure []
  | x :: rest => do
    let kvs := match x with | .table kvs => kvs | _ => []
    pure (("", ← freshEntries fuel kvs []) :: (← freshSections fuel rest))
end

/-- The layout of a value; `fuel` covers any nesting of data read from text. -/
def Fresh.ofValue (v : Value) : Outcome Fresh := fresh 1000 v

def subPath (path k : String) : String := if path.isEmpty then keyText k else path ++ "." ++ keyText k

/-- What a written section keeps from the entry it replaces: its header's comment (with the
blanks before it) and line end. A fresh section has no comment and ends its header's line. -/
structure Trail where
  comment : String := ""
  lineEnd : String := "\n"

mutual
/-- The text of a section or array of sections under the dotted name `path`. -/
def sectionText (fuel : Nat) (path : String) (trail : Trail) (v : Fresh) : String :=
  match fuel with
  | 0 => ""
  | fuel + 1 =>
    match v with
    | .line _ => ""
    | .table indent entries blankAfter =>
      let head :=
        if v.isOnlySections then (if indent == "\n" then "\n" else "")
        else indent ++ "[" ++ path ++ "]" ++ trail.comment ++ trail.lineEnd ++
          (if trail.lineEnd.contains '\n' || entries.isEmpty then "" else "\n")
      head ++ entriesText fuel path entries ++ (if blankAfter then "\n" else "")
    | .tables sections => sectionsText fuel path sections

def entriesText (fuel : Nat) (path : String) : List (String × Fresh) → String
  | [] => ""
  | (k, v) :: rest =>
    (match v with
      | .line t => keyText k ++ " = " ++ t ++ "\n"
      | _ => sectionText fuel (subPath path k) {} v) ++ entriesText fuel path rest

def sectionsText (fuel : Nat) (path : String) : List (String × List (String × Fresh)) → String
  | [] => ""
  | (indent, entries) :: rest =>
    indent ++ "[[" ++ path ++ "]]\n" ++ entriesText fuel path entries ++ sectionsText fuel path rest
end

/-- The text of a fresh value written as the entry `key` of a document's top level. -/
def Fresh.text (key : String) (trail : Trail) (v : Fresh) : String :=
  match v with
  | .line t => key ++ " = " ++ t ++ "\n"
  | _ => sectionText 1000 key trail v

/-- A whole table written fresh, as a document of its own. -/
def dumps (kvs : List (String × Value)) : Outcome String := do
  let entries ← freshEntries 1000 kvs []
  pure (entriesText 1000 "" entries)

end DesktopPool.Toml
