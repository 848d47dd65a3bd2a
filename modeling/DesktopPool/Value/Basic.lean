import DesktopPool.Fault
import DesktopPool.Value.Moment

/-! Dynamic values, as request lines, configuration files and command output carry them: null,
truth values, integers of any size, doubles, text, lists, tables whose keys keep the order in
which they first appeared, and the dates and times configuration files may hold. A table holds
each key once. -/
namespace DesktopPool

inductive Value where
  | null
  | bool (b : Bool)
  | int (n : Int)
  | float (x : Float)
  | str (s : String)
  | list (xs : List Value)
  | table (kvs : List (String × Value))
  | moment (m : Moment)
  deriving Inhabited

namespace Value

/-- The type name that messages about a value use. -/
def typeName : Value → String
  | .null => "NoneType"
  | .bool _ => "bool"
  | .int _ => "int"
  | .float _ => "float"
  | .str _ => "str"
  | .list _ => "list"
  | .table _ => "dict"
  | .moment m => m.typeName

/-- Truth of a value: null, false, zero, and empty text, lists and tables are false; every
moment is true. -/
def truthy : Value → Bool
  | .null => false
  | .bool b => b
  | .int n => n != 0
  | .float x => !(x == 0)
  | .str s => !s.isEmpty
  | .list xs => !xs.isEmpty
  | .table kvs => !kvs.isEmpty
  | .moment _ => true

def isNull : Value → Bool
  | .null => true
  | _ => false

def get? (v : Value) (key : String) : Option Value :=
  match v with
  | .table kvs => kvs.lookup key
  | _ => none

def getD (v : Value) (key : String) (dflt : Value) : Value := (v.get? key).getD dflt

def str? : Value → Option String
  | .str s => some s
  | _ => none

def list? : Value → Option (List Value)
  | .list xs => some xs
  | _ => none

def table? : Value → Option (List (String × Value))
  | .table kvs => some kvs
  | _ => none

end Value

/-- A table with `key` set to `v`: an existing key keeps its place, a new one goes last. -/
def Table.set (kvs : List (String × Value)) (key : String) (v : Value) : List (String × Value) :=
  if kvs.any (·.1 == key) then kvs.map fun (k, w) => if k == key then (k, v) else (k, w)
  else kvs ++ [(key, v)]

def Table.keys (kvs : List (String × Value)) : List String := kvs.map (·.1)

end DesktopPool
