import DesktopPool.Value.Number

/-! Tests built on the equality of dynamic values (`Value.same`): being a given text, and
membership. -/
namespace DesktopPool

/-- Whether a value is the given text. -/
def Value.isText (v : Value) (s : String) : Bool :=
  match v with
  | .str t => t == s
  | _ => false

/-- Membership under value equality. -/
def Value.within (v : Value) (vs : List Value) : Bool := vs.any v.same

end DesktopPool
