import DesktopPool.Value.Text

/-! Reading command output, which may be any JSON: entries of values that must be tables, the
`v or {}` reading in which a false value stands for an empty table, and iteration in which a
false value stands for an empty list (a table iterates over its keys, text over its
characters). The text tests `startsWith`, `endsWith` and `lower` need text, and a text argument
for the tests. Reading a value of the wrong type is the fault the reading would raise. -/
namespace DesktopPool

namespace Value

def noAttribute (v : Value) (attr : String) : Fault :=
  .make .missingAttribute s!"{Text.quote v.typeName} object has no attribute {Text.quote attr}"

def entryD (v : Value) (key : String) (dflt : Value) : Outcome Value :=
  match v with
  | .table kvs => .ok ((kvs.lookup key).getD dflt)
  | _ => .error (v.noAttribute "get")

def entry (v : Value) (key : String) : Outcome Value := v.entryD key .null

/-- The entry of `v or {}`. -/
def entryOrEmpty (v : Value) (key : String) : Outcome Value :=
  if v.truthy then v.entry key else .ok .null

def items (v : Value) : Outcome (List Value) :=
  if !v.truthy then .ok []
  else match v with
    | .list xs => .ok xs
    | .table kvs => .ok (kvs.map fun (k, _) => .str k)
    | .str s => .ok (s.toList.map fun c => .str c.toString)
    | _ => fail .wrongType s!"{Text.quote v.typeName} object is not iterable"

/-- `v or d`. -/
def orElse (v d : Value) : Value := if v.truthy then v else d

/-- The text of `v` for a text method named `method`. -/
def textFor (v : Value) (method : String) : Outcome String :=
  match v with
  | .str s => .ok s
  | _ => .error (v.noAttribute method)

/-- The text argument `a` of the text test `method`. -/
def argumentFor (a : Value) (method : String) : Outcome String :=
  match a with
  | .str s => .ok s
  | _ => fail .wrongType s!"{method} first arg must be str or a tuple of str, not {a.typeName}"

def startsWith (v p : Value) : Outcome Bool := do
  let s ← v.textFor "startswith"
  pure (s.startsWith (← p.argumentFor "startswith"))

def endsWith (v p : Value) : Outcome Bool := do
  let s ← v.textFor "endswith"
  pure (s.endsWith (← p.argumentFor "endswith"))

def lower (v : Value) : Outcome String := do pure (Unicode.lower (← v.textFor "lower"))

end Value

end DesktopPool
