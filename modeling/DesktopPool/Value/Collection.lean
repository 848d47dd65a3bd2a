import DesktopPool.Value.Number
import DesktopPool.Value.Text

/-! Containers over dynamic values: dictionaries, sets and lists as the program builds them from
whatever values it is handed.

Keys of dictionaries and members of sets must be hashable: null, truth values, numbers and
text; lists and tables are not. Two keys are the same when they are equal (`Value.same`), so
`1`, `1.0` and `true` are one key. Iterating a value gives a list's elements, a table's keys or
the characters of text; anything else is not iterable. A table written out as JSON shows a key
that is not text in its JSON form (`Value.keyText`), and that form is what tables built here
store.

Sorting compares with `<` only, in the order the standard sort compares short lists: it takes
the longest run at the front (reversed when it strictly descends) and inserts every later item
after a binary search. Items that do not compare make the sort fail with the first comparison
that does not. -/
namespace DesktopPool

def Text.occursIn (t s : String) : Bool := t.isEmpty || (s.splitOn t).length > 1

namespace Value

/-- Null, truth values, numbers and text can be keys; lists and tables cannot. -/
def isHashable : Value → Bool
  | .list _ | .table _ => false
  | _ => true

def unhashable (v : Value) : Fault :=
  .make .wrongType s!"unhashable type: {Text.quote v.typeName}"

def asKey (v : Value) : Outcome Value := if v.isHashable then .ok v else .error v.unhashable

def notIterable (v : Value) : Fault :=
  .make .wrongType s!"{Text.quote v.typeName} object is not iterable"

def iterate (v : Value) : Outcome (List Value) :=
  match v with
  | .list xs => .ok xs
  | .table kvs => .ok (kvs.map fun (k, _) => .str k)
  | .str s => .ok (s.toList.map fun c => .str c.toString)
  | _ => .error v.notIterable

/-- The text a key takes in a JSON table: text as it is, other keys in their JSON form. -/
def keyText : Value → String
  | .str s => s
  | .bool b => if b then "true" else "false"
  | .null => "null"
  | .float x => if x.isNaN then "NaN" else if x.isInf then (if x > 0 then "Infinity" else "-Infinity") else FloatText.render x
  | v => v.text

/-- `x in v`: list elements by equality, table keys by key, text by substring. -/
def includes (v x : Value) : Outcome Bool :=
  match v with
  | .list xs => .ok (xs.any (·.same x))
  | .table kvs => do
    let k ← x.asKey
    pure (kvs.any fun (j, _) => (Value.str j).same k)
  | .str s =>
    match x with
    | .str t => .ok (Text.occursIn t s)
    | _ => fail .wrongType s!"'in <string>' requires string as left operand, not {x.typeName}"
  | _ => fail .wrongType s!"argument of type {Text.quote v.typeName} is not iterable"

def memberOf (x : Value) (set : List Value) : Outcome Bool := do
  let k ← x.asKey
  pure (set.any (·.same k))

def distinctKeys (xs : List Value) : List Value :=
  xs.foldl (fun acc x => if acc.any (·.same x) then acc else acc ++ [x]) []

def toSet (v : Value) : Outcome (List Value) := do
  let items ← v.iterate
  let keys ← items.mapM asKey
  pure (distinctKeys keys)

/-- One pair of the sequence a table is built from: element `i` must be a pair. -/
def pairAt (i : Nat) (e : Value) : Outcome (String × Value) := do
  let parts ← match e with
    | .list _ | .table _ | .str _ => e.iterate
    | _ => fail .wrongType s!"cannot convert dictionary update sequence element #{i} to a sequence"
  match parts with
  | [k, x] =>
    let k ← k.asKey
    pure (k.keyText, x)
  | _ => fail .badValue s!"dictionary update sequence element #{i} has length {parts.length}; 2 is required"

/-- The table `v` makes: a table is itself, any other iterable must give key-value pairs,
later pairs replacing the values of earlier ones in place. -/
def toTable (v : Value) : Outcome (List (String × Value)) :=
  match v with
  | .table kvs => .ok kvs
  | _ => do
    let items ← v.iterate
    let pairs ← (items.zipIdx.mapM fun (e, i) => pairAt i e)
    pure (pairs.foldl (fun acc (k, x) => Table.set acc k x) [])

def less (a b : Value) : Outcome Bool := a.relate .lt b

end Value

def Keyed.put {κ α : Type} (same : κ → κ → Bool) (xs : List (κ × α)) (k : κ) (v : α) :
    List (κ × α) :=
  if xs.any (same k ·.1) then xs.map fun (j, w) => if same k j then (j, v) else (j, w)
  else xs ++ [(k, v)]

def Keyed.find? {κ α : Type} (same : κ → κ → Bool) (xs : List (κ × α)) (k : κ) : Option α :=
  (xs.find? (same k ·.1)).map (·.2)

namespace Sorting

variable {α : Type}

/-- Items after `prev` that keep a run going: strictly descending ones when `down`, the
others when not. -/
def runOn (down : Bool) (prev : Value) : List (Value × α) → Outcome Nat
  | [] => .ok 0
  | x :: xs => do
    if (← x.1.less prev) == down then pure ((← runOn down x.1 xs) + 1) else pure 0

/-- The length of the run at the front and whether it strictly descends. -/
def frontRun : List (Value × α) → Outcome (Nat × Bool)
  | a :: b :: rest => do
    let down ← b.1.less a.1
    pure ((← runOn down b.1 rest) + 2, down)
  | xs => .ok (xs.length, false)

/-- Where binary search puts `pivot` among the sorted `xs[l, r)`: after every item it is not
less than. -/
def place (pivot : Value) (xs : Array (Value × α)) : Nat → Nat → Nat → Outcome Nat
  | 0, l, _ => .ok l
  | fuel + 1, l, r =>
    if l < r then
      let p := (l + r) / 2
      match xs[p]? with
      | none => .ok l
      | some (k, _) => do
        if ← pivot.less k then place pivot xs fuel l p else place pivot xs fuel (p + 1) r
    else .ok l

def insert (xs : Array (Value × α)) (item : Value × α) : Outcome (Array (Value × α)) := do
  let i ← place item.1 xs (xs.size + 1) 0 xs.size
  pure ((xs.extract 0 i).push item ++ xs.extract i xs.size)

/-- The items ordered by their keys, equal keys keeping their order. -/
def sortOn (key : α → Value) (xs : List α) : Outcome (List α) := do
  let keyed := xs.map fun x => (key x, x)
  let (n, down) ← frontRun keyed
  let run := keyed.take n
  let sorted ← (keyed.drop n).foldlM insert (if down then run.reverse else run).toArray
  pure (sorted.toList.map (·.2))

def sort (xs : List Value) : Outcome (List Value) := sortOn id xs

end Sorting

end DesktopPool
