import DesktopPool.Toml.Fresh

/-! A TOML document kept with its layout: the entries of its top level, each holding the text
it was read from, so that writing the document back gives the text it was read from. Setting
a top-level key changes only what the key touches.

* A key that is already there keeps its place. A plain value replacing a plain value keeps the
  text around it (indent, the key as written, the `=` with its blanks, the comment, the line
  end); a table replacing a table keeps the header's indent, comment and line end. A value of
  the other kind (a table for a plain value, or the other way round), or a table over the
  table a dotted key opened, leaves a hole where the old one was and is put where a new one of
  its kind would go, but no later than the first table after the hole.
* A new plain key goes after the last plain entry before the first table (blank lines right
  before the table stay there), and the table it is put in front of starts on a line of its
  own. A new table goes at the end, after a blank line unless one is there.
* An entry that must be followed by another gets a line end when it has none.
* A replacing table that is not the last entry ends with a blank line, unless one follows it.
-/
namespace DesktopPool.Toml

/-- A table header as read: the key as written, the text before the header, the comment after
it (with the blanks before the comment) and the line end. -/
structure Header where
  keyText : String
  indent : String := ""
  comment : String := ""
  lineEnd : String := "\n"

/-- A table read from a document. `shown` is false for the parent a `[a.b]` header implies
(its header line is not in the text); `rest` is the text after the indent; `endsBlank` says
the table's own entries end with a blank line. An array of tables keeps its whole text in
`rest`. -/
structure ReadTable where
  header : Header
  shown : Bool := true
  rest : String
  endsBlank : Bool := false
  isArray : Bool := false

/-- An entry of a document's top level. -/
inductive Entry where
  /-- Blank lines. -/
  | blank (text : String)
  /-- A comment line. -/
  | note (text : String)
  /-- `key = value`: the text before the value, the value, and the rest of the line. -/
  | pair (key : String) (head value tail : String)
  /-- A `key.more = value` line, which opens the table `key`. -/
  | dotted (key : String) (keyText : String) (text : String)
  | table (key : String) (t : ReadTable)
  /-- A table written from data, under the key as written, with its header's trail. -/
  | fresh (key : String) (keyText : String) (trail : Trail) (v : Fresh)
  /-- The place of a removed entry. -/
  | gone
  deriving Inhabited

abbrev Document := List Entry

namespace Entry

def key? : Entry → Option String
  | .pair k .. | .dotted k .. | .table k _ | .fresh k .. => some k
  | _ => none

def isBlank : Entry → Bool
  | .blank _ => true
  | _ => false

def isGone : Entry → Bool
  | .gone => true
  | _ => false

/-- A table or array of tables, the one a dotted key opens included. -/
def isSection : Entry → Bool
  | .dotted .. | .table .. => true
  | .fresh _ _ _ v => v.isSection
  | _ => false

/-- A table or array of tables that ends the run of plain entries at the top. -/
def opensSections : Entry → Bool
  | .table .. => true
  | .fresh _ _ _ v => v.isSection
  | _ => false

def endsBlank : Entry → Bool
  | .table _ t => !t.isArray && t.endsBlank
  | .fresh _ _ _ v => v.endsBlank
  | _ => false

def endsLine : Entry → Bool
  | .pair _ _ _ tail => tail.contains '\n'
  | .note t => t.contains '\n'
  | .gone => false
  | _ => true

def closeLine : Entry → Entry
  | .pair k h v t => .pair k h v (t ++ "\n")
  | .note t => .note (t ++ "\n")
  | e => e

/-- A table that starts on a line of its own, its indent opening with a line break. An array
of tables has no line of its own to start: its text stays as it is, and the line break goes to
the indent it hands on to a table written over it. -/
def openLine : Entry → Entry
  | .table k t =>
    if t.header.indent.contains '\n' then .table k t
    else .table k { t with header := { t.header with indent := "\n" ++ t.header.indent } }
  | .fresh k kt tr (.table i es b) =>
    if i.contains '\n' then .fresh k kt tr (.table i es b) else .fresh k kt tr (.table ("\n" ++ i) es b)
  | e => e

def closeBlank : Entry → Entry
  | .fresh k kt tr (.table i es _) => .fresh k kt tr (.table i es true)
  | e => e

def text : Entry → String
  | .blank t | .note t => t
  | .pair _ h v t => h ++ v ++ t
  | .dotted _ _ t => t
  | .table _ t =>
    if t.isArray then t.rest
    else if t.shown then t.header.indent ++ t.rest
    else (if t.header.indent == "\n" then "\n" else "") ++ t.rest
  | .fresh _ kt tr v => Fresh.text kt tr v
  | .gone => ""

def ofFresh (key : String) (v : Fresh) : Entry :=
  match v with
  | .line t => .pair key (keyText key ++ " = ") t "\n"
  | _ => .fresh key (keyText key) {} v

/-- A value written over `old`, of the same kind: it takes the old entry's key as written and
the text around it. -/
def writtenOver (old : Entry) (key : String) (v : Fresh) : Entry :=
  match old, v with
  | .pair k h _ t, .line text => .pair k h text t
  | .table _ t, .table .. =>
    .fresh key t.header.keyText { comment := t.header.comment, lineEnd := t.header.lineEnd }
      (v.withIndent t.header.indent)
  | .table _ t, .tables _ => .fresh key t.header.keyText {} v
  | .dotted _ kt _, .tables _ => .fresh key kt {} v
  | .fresh _ kt tr w, .table .. => .fresh key kt tr (v.withIndent w.indent)
  | .fresh _ kt tr _, .tables _ => .fresh key kt tr v
  | _, _ => ofFresh key v

end Entry

namespace Document

def render (d : Document) : String := String.join (d.map Entry.text)

/-- Where a new plain entry goes: after the last entry that is neither blank nor removed,
before the first table. -/
def plainEnd (d : Document) : Nat :=
  let rec go : List Entry → Nat → Nat → Nat
    | [], _, last => last
    | e :: rest, i, last =>
      if e.isGone || e.isBlank then go rest (i + 1) last
      else if e.opensSections then last
      else go rest (i + 1) (i + 1)
  go d 0 0

def closeBefore (d : Document) (i : Nat) (e : Entry) : Document :=
  if i = 0 then d
  else d.modify (i - 1) fun p =>
    if p.isBlank || p.endsBlank || e.isSection || p.endsLine then p else p.closeLine

/-- `e` put in at position `i`; a table standing there starts on a line of its own when `e`
is a plain entry. -/
def insertAt (d : Document) (i : Nat) (e : Entry) : Document :=
  let d := closeBefore d i e
  let d := if e.isSection then d else d.modify i Entry.openLine
  d.insertIdx i e

def lastEntry? (d : Document) : Option (Nat × Entry) :=
  (d.zipIdx.filter fun (e, _) => !e.isGone).getLast?.map fun (e, i) => (i, e)

/-- A new key put where its kind goes (see the module note). -/
def append (d : Document) (key : String) (v : Fresh) : Document :=
  if v.isSection then
    let prevBlank := match lastEntry? d with
      | some (_, p) => p.isBlank || p.endsBlank
      | none => false
    let v := if !d.isEmpty && v.indent.isEmpty && !prevBlank then v.withIndent "\n" else v
    d ++ [Entry.ofFresh key v]
  else
    let e := Entry.ofFresh key v
    if d.isEmpty then [e]
    else
      let i := plainEnd d
      if i < d.length then insertAt d i e
      else
        let d := d.modify (d.length - 1) fun p =>
          if p.isBlank || p.endsBlank || p.endsLine then p else p.closeLine
        d ++ [e]

/-- After a table has been put at `i` over `old`: it ends with a blank line when something
follows it and no blank line follows, or when the table it replaced ended with one. -/
def settleTable (d : Document) (i : Option Nat) (old : Entry) (v : Fresh) : Document :=
  match v with
  | .table .. =>
    match lastEntry? d with
    | none => d
    | some (last, _) =>
      let i := i.getD last
      let nextBlank := i < last && (d[i + 1]?.map Entry.isBlank).getD false
      if (i < last || old.endsBlank) && !(nextBlank || v.endsBlank) then d.modify i Entry.closeBlank
      else d
  | _ => d

/-- Whether a value put over `old` takes another place: it is of the other kind (a table for a
plain value, or the other way round), or it is a table over the table a dotted key opened. -/
def movesFrom (old : Entry) (v : Fresh) : Bool :=
  match old, v with
  | .dotted .., .table .. => true
  | _, _ => v.isSection != old.isSection

def replaceAt (d : Document) (i : Nat) (key : String) (v : Fresh) : Document :=
  let old := d[i]?.getD .gone
  if movesFrom old v then
    let d := d.set i .gone
    let later := ((d.zipIdx.drop i).find? fun (e, _) => e.isSection).map (·.2)
    match later with
    | some j => settleTable (insertAt d j (Entry.ofFresh key v)) (some j) old v
    | none => settleTable (append d key v) none old v
  else settleTable (d.set i (old.writtenOver key v)) (some i) old v

/-- The document with `key` set to `v` at its top level. A key held by several entries (a
table continued under dotted headers) keeps only the first. -/
def set (d : Document) (key : String) (v : Fresh) : Document :=
  let places := (d.zipIdx.filter fun (e, _) => e.key? == some key).map (·.2)
  match places with
  | [] => append d key v
  | first :: others =>
    let d := d.zipIdx.map fun (e, j) => if others.contains j then Entry.gone else e
    replaceAt d first key v

end Document

end DesktopPool.Toml
