import DesktopPool.Value.Text

/-! Records built from tables of named fields, and calls given their arguments by name.

A record has a qualified name, a short name and its field names in order; a table supplies some
of the fields by name. What is not a table, or names a field the record lacks, is refused with
the record's names in the message.

A call has a name and its parameters in order, each with a default or none. Binding named
arguments refuses, in this order, a name the call lacks (the first one in argument order), the
name `self`, which the call has already given, and then every parameter without a default that
the arguments leave out, all named in one message. -/
namespace DesktopPool

structure RecordShape where
  qualified : String
  short : String
  fields : List String

/-- The fields a table supplies, checked against the record's field names in the table's order.
The name `self` is the record being built, which the call has already given. An unknown name is
shown as it is, between single quotes. -/
def RecordShape.supplied (r : RecordShape) (arg : Value) : Outcome (List (String × Value)) :=
  match arg with
  | .table kvs =>
    match kvs.find? (fun (k, _) => k == "self" || !r.fields.contains k) with
    | some (k, _) =>
      if k == "self" then fail .wrongType s!"{r.short}.__init__() got multiple values for argument 'self'"
      else fail .wrongType s!"{r.short}.__init__() got an unexpected keyword argument '{k}'"
    | none => .ok kvs
  | _ => fail .wrongType s!"{r.qualified}() argument after ** must be a mapping, not {arg.typeName}"

def fieldOr (kvs : List (String × Value)) (name : String) (dflt : Value) : Value :=
  (kvs.lookup name).getD dflt

/-- Parameter names as a message lists them: `'a'`, `'a' and 'b'`, `'a', 'b', and 'c'`. -/
def listedNames (names : List String) : String :=
  let quoted := names.map fun n => "'" ++ n ++ "'"
  match quoted with
  | [a] => a
  | [a, b] => a ++ " and " ++ b
  | _ => ", ".intercalate quoted.dropLast ++ ", and " ++ quoted.getLastD ""

/-- The fault of a call that leaves out the parameters `names` of `fn`. -/
def missingArguments (fn : String) (names : List String) : Fault :=
  let plural := if names.length == 1 then "" else "s"
  .make .wrongType s!"{fn}() missing {names.length} required positional argument{plural}: {listedNames names}"

structure Signature where
  name : String
  params : List (String × Option Value)

def Signature.bind (sig : Signature) (args : List (String × Value)) : Outcome (List Value) := do
  match args.find? (fun (k, _) => k == "self" || !sig.params.any (·.1 == k)) with
  | some (k, _) =>
    if k == "self" then fail .wrongType s!"{sig.name}() got multiple values for argument 'self'"
    else fail .wrongType s!"{sig.name}() got an unexpected keyword argument '{k}'"
  | none =>
    let missing := sig.params.filterMap fun (p, d) =>
      if d.isNone && (args.lookup p).isNone then some p else none
    if !missing.isEmpty then .error (missingArguments sig.name missing)
    else pure (sig.params.map fun (p, d) => ((args.lookup p).orElse fun _ => d).getD .null)

end DesktopPool
