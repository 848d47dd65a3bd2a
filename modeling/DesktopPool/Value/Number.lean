import DesktopPool.Value.Text
import DesktopPool.Number.Read
import DesktopPool.Text.Sort

/-! Arithmetic and order on dynamic values. Whole numbers and doubles compare exactly, as points
of the extended real line (not-a-number is unordered); a truth value counts as 0 or 1. Mixed
arithmetic first turns the whole number into the nearest double, a quotient of two whole numbers
is the double nearest to the exact quotient, and a ceiling is exact. Applying an operation to
values of the wrong type is a `wrongType` fault naming the operation and both types. -/
namespace DesktopPool

inductive Num where
  | int (n : Int)
  | float (x : Float)

inductive Extended where
  | negInf
  | finite (num : Int) (den : Nat)
  | posInf

def Extended.order : Extended → Extended → Ordering
  | .negInf, .negInf => .eq
  | .negInf, _ => .lt
  | _, .negInf => .gt
  | .posInf, .posInf => .eq
  | .posInf, _ => .gt
  | _, .posInf => .lt
  | .finite a b, .finite c d => compare (a * d) (c * b)

namespace Num

def toValue : Num → Value
  | .int n => .int n
  | .float x => .float x

/-- The exact position of a number, `none` for not-a-number. -/
def extended : Num → Option Extended
  | .int n => some (.finite n 1)
  | .float x =>
    match Binary.decode x with
    | .nan => none
    | .inf neg => some (if neg then .negInf else .posInf)
    | .zero _ => some (.finite 0 1)
    | .finite neg m e => let (n, d) := Binary.ratio neg m e; some (.finite n d)

def order? (a b : Num) : Option Ordering := do
  let x ← a.extended
  let y ← b.extended
  pure (x.order y)

end Num

def Value.num? : Value → Option Num
  | .bool b => some (.int (if b then 1 else 0))
  | .int n => some (.int n)
  | .float x => some (.float x)
  | _ => none

/-! ## Equality

Numbers are equal when they are the same point of the real line (a truth value counts as 0 or
1, and not-a-number equals nothing), text by its characters, lists element by element, and
tables as maps: the same keys, with equal entries, in any order. Values of different kinds are
unequal. -/

mutual
def Value.same : Value → Value → Bool
  | .null, .null => true
  | .str s, .str t => s == t
  | .list xs, .list ys => Value.sameList xs ys
  | .table kvs, .table lws => kvs.length == lws.length && Value.sameTable kvs lws
  | .moment m, .moment n => m == n
  | a, b =>
    match a.num?, b.num? with
    | some x, some y => x.order? y == some .eq
    | _, _ => false

def Value.sameList : List Value → List Value → Bool
  | [], [] => true
  | x :: xs, y :: ys => x.same y && Value.sameList xs ys
  | _, _ => false

/-- Every entry of the first table has an equal entry under its key in the second. -/
def Value.sameTable : List (String × Value) → List (String × Value) → Bool
  | [], _ => true
  | (k, v) :: rest, other =>
    (match other.lookup k with
      | some w => v.same w
      | none => false) && Value.sameTable rest other
end

inductive Relation where
  | lt | le | gt | ge

namespace Relation

def symbol : Relation → String
  | .lt => "<" | .le => "<=" | .gt => ">" | .ge => ">="

def holds : Relation → Ordering → Bool
  | .lt, o => o == .lt
  | .le, o => o != .gt
  | .gt, o => o == .gt
  | .ge, o => o != .lt

end Relation

def unordered (r : Relation) (a b : Value) : Fault :=
  .make .wrongType s!"{Text.quote r.symbol} not supported between instances of {Text.quote a.typeName} and {Text.quote b.typeName}"

mutual
/-- `a r b`: numbers exactly, text by code points, lists at their first unequal elements (by
length when one is a beginning of the other), moments of one kind in time; other pairs are
unordered. -/
def Value.relate (r : Relation) (a b : Value) : Outcome Bool :=
  match a.num?, b.num? with
  | some x, some y => .ok ((x.order? y).map r.holds |>.getD false)
  | _, _ =>
    match a, b with
    | .str s, .str t => .ok (r.holds (Text.compareText s t))
    | .list xs, .list ys => Value.relateLists r xs ys
    | .moment m, .moment n =>
      match m.order n with
      | some o => .ok (r.holds o)
      | none => .error (unordered r a b)
    | _, _ => .error (unordered r a b)

def Value.relateLists (r : Relation) : List Value → List Value → Outcome Bool
  | x :: xs, y :: ys => if x.same y then Value.relateLists r xs ys else x.relate r y
  | xs, ys => .ok (r.holds (compare xs.length ys.length))
end

/-- The larger of two values, the first unless the second is greater. -/
def Value.larger (a b : Value) : Outcome Value := do
  if ← b.relate .gt a then pure b else pure a

/-- The smaller of two values, the first unless the second is less. -/
def Value.smaller (a b : Value) : Outcome Value := do
  if ← b.relate .lt a then pure b else pure a

def Num.asFloat : Num → Outcome Float
  | .float x => .ok x
  | .int n =>
    match Binary.ofInt n with
    | some x => .ok x
    | none => fail .overflow "int too large to convert to float"

inductive ArithOp where
  | add | sub | mul | div

def ArithOp.symbol : ArithOp → String
  | .add => "+" | .sub => "-" | .mul => "*" | .div => "/"

def ArithOp.onFloats : ArithOp → Float → Float → Outcome Float
  | .add, x, y => .ok (x + y)
  | .sub, x, y => .ok (x - y)
  | .mul, x, y => .ok (x * y)
  | .div, x, y => if y == 0 then fail .divisionByZero "float division by zero" else .ok (x / y)

def ArithOp.onInts : ArithOp → Int → Int → Outcome Value
  | .add, a, b => .ok (.int (a + b))
  | .sub, a, b => .ok (.int (a - b))
  | .mul, a, b => .ok (.int (a * b))
  | .div, a, b =>
    if b = 0 then fail .divisionByZero "division by zero"
    else match Binary.nearestSigned ((a < 0) != (b < 0)) a.natAbs b.natAbs with
      | some x => .ok (.float x)
      | none => fail .overflow "integer division result too large for a float"

def Num.arith (op : ArithOp) : Num → Num → Outcome Value
  | .int a, .int b => op.onInts a b
  | x, y => do
    let u ← x.asFloat
    let v ← y.asFloat
    let r ← op.onFloats u v
    pure (.float r)

def Value.isSequence : Value → Bool
  | .str _ | .list _ => true
  | _ => false

/-- A sequence repeated `n` times; none of it for `n` not above zero. -/
def Value.repeated (v : Value) (n : Int) : Value :=
  match v with
  | .str s => .str (String.join (List.replicate n.toNat s))
  | .list xs => .list (List.replicate n.toNat xs).flatten
  | other => other

/-- `a op b` on numbers, joined text and joined lists, and text or a list repeated by a whole
number (either side); a sequence times anything else names the other operand's type. -/
def Value.arith (op : ArithOp) (a b : Value) : Outcome Value :=
  match a.num?, b.num? with
  | some x, some y => x.arith op y
  | _, _ =>
    match op, a, b with
    | .add, .str s, .str t => .ok (.str (s ++ t))
    | .add, .list xs, .list ys => .ok (.list (xs ++ ys))
    | .add, .str _, _ => fail .wrongType s!"can only concatenate str (not \"{b.typeName}\") to str"
    | .add, .list _, _ => fail .wrongType s!"can only concatenate list (not \"{b.typeName}\") to list"
    | .mul, _, _ =>
      if a.isSequence then
        match b.num? with
        | some (.int n) => .ok (a.repeated n)
        | _ => fail .wrongType s!"can't multiply sequence by non-int of type {Text.quote b.typeName}"
      else if b.isSequence then
        match a.num? with
        | some (.int n) => .ok (b.repeated n)
        | _ => fail .wrongType s!"can't multiply sequence by non-int of type {Text.quote a.typeName}"
      else fail .wrongType s!"unsupported operand type(s) for *: {Text.quote a.typeName} and {Text.quote b.typeName}"
    | _, _, _ =>
      fail .wrongType s!"unsupported operand type(s) for {op.symbol}: {Text.quote a.typeName} and {Text.quote b.typeName}"

def Value.ceil (v : Value) : Outcome Value :=
  match v with
  | .bool b => .ok (.int (if b then 1 else 0))
  | .int n => .ok (.int n)
  | .float x =>
    match Binary.decode x with
    | .nan => fail .badValue "cannot convert float NaN to integer"
    | .inf _ => fail .overflow "cannot convert float infinity to integer"
    | .zero _ => .ok (.int 0)
    | .finite neg m e =>
      let (n, d) := Binary.ratio neg m e
      .ok (.int (-((-n) / (d : Int))))
  | _ => fail .wrongType s!"must be real number, not {v.typeName}"

def Value.negate (v : Value) : Outcome Value :=
  match v with
  | .bool b => .ok (.int (if b then -1 else 0))
  | .int n => .ok (.int (-n))
  | .float x => .ok (.float (-x))
  | _ => fail .wrongType s!"bad operand type for unary -: {Text.quote v.typeName}"

def Value.magnitude (v : Value) : Outcome Value :=
  match v with
  | .bool b => .ok (.int (if b then 1 else 0))
  | .int n => .ok (.int n.natAbs)
  | .float x => .ok (.float x.abs)
  | _ => fail .wrongType s!"bad operand type for abs(): {Text.quote v.typeName}"

/-- A value as a whole number: doubles toward zero, text read as a whole number. -/
def Value.toWhole (v : Value) : Outcome Int :=
  match v with
  | .bool b => .ok (if b then 1 else 0)
  | .int n => .ok n
  | .float x =>
    match Binary.decode x with
    | .nan => fail .badValue "cannot convert float NaN to integer"
    | .inf _ => fail .overflow "cannot convert float infinity to integer"
    | .zero _ => .ok 0
    | .finite neg m e => let (n, d) := Binary.ratio neg m e; .ok (n.tdiv d)
  | .str s =>
    match NumberText.readWhole s with
    | .value n => .ok n
    | .invalid => fail .badValue s!"invalid literal for int() with base 10: {Text.quote s}"
    | .tooLong digits => fail .badValue (NumberText.tooLongMessage digits)
  | _ => fail .wrongType
    s!"int() argument must be a string, a bytes-like object or a real number, not {Text.quote v.typeName}"

/-- A value as a double: whole numbers rounded to the nearest, text read as a decimal. -/
def Value.toDouble (v : Value) : Outcome Float :=
  match v with
  | .bool b => .ok (if b then 1.0 else 0.0)
  | .int n => (Num.int n).asFloat
  | .float x => .ok x
  | .str s =>
    match NumberText.readFloat? s with
    | some x => .ok x
    | none => fail .badValue s!"could not convert string to float: {Text.quote s}"
  | _ => fail .wrongType s!"float() argument must be a string or a real number, not {Text.quote v.typeName}"

/-- A value written with `places` decimal places, as the fixed-point format writes numbers:
whole numbers through the nearest double. Text knows no such format, and other values take no
format at all. -/
def Value.fixedText (v : Value) (places : Nat) : Outcome String :=
  match v with
  | .bool _ | .int _ | .float _ => do pure (FloatText.fixed (← v.toDouble) places)
  | .str _ => fail .badValue "Unknown format code 'f' for object of type 'str'"
  | _ => fail .wrongType s!"unsupported format string passed to {v.typeName}.__format__"

end DesktopPool
