import DesktopPool.Value.Basic
import DesktopPool.Number.Text
import DesktopPool.Text.Quoted

/-! Text of dynamic values as messages show them. `Value.repr` is the quoted form (text in
quotes, `None`, `True`, lists in brackets, tables in braces, a moment as the call that builds
it); `Value.text` is the plain form, which differs only in showing text unquoted and moments in
their plain form. -/
namespace DesktopPool

mutual
/-- The quoted form of a value. -/
def Value.repr : Value → String
  | .null => "None"
  | .bool b => if b then "True" else "False"
  | .int n => toString n
  | .float x => FloatText.render x
  | .str s => Text.quote s
  | .list xs => "[" ++ Value.reprList xs ++ "]"
  | .table kvs => "\x7b" ++ Value.reprTable kvs ++ "\x7d"
  | .moment m => m.repr

def Value.reprList : List Value → String
  | [] => ""
  | [x] => x.repr
  | x :: xs => x.repr ++ ", " ++ Value.reprList xs

def Value.reprTable : List (String × Value) → String
  | [] => ""
  | [(k, v)] => Text.quote k ++ ": " ++ v.repr
  | (k, v) :: rest => Text.quote k ++ ": " ++ v.repr ++ ", " ++ Value.reprTable rest
end

/-- The plain form of a value: text as it is, a moment in its plain form, everything else
quoted. -/
def Value.text : Value → String
  | .str s => s
  | .moment m => m.text
  | v => v.repr

def Text.reprList (xs : List String) : String := (Value.list (xs.map .str)).repr

end DesktopPool
