import DesktopPool.Value.Text

/-! Session host names. A directory names a host `pool/host`, where the host part is a fully
qualified name whose first label is the node id; some listings nest a path, and then the last
segment is the host part. `HostName.parse` accepts exactly the names with a nonempty pool, a
nonempty host part and a nonempty first label, and returns the three parts. -/
namespace DesktopPool

structure HostName where
  pool : String
  display : String
  node : String
  deriving DecidableEq, Repr, Inhabited

namespace HostName

def unsplittable (shown : String) : Fault :=
  .make .hostName s!"Could not split session host name: {shown}"

def splitFirst (s : String) : Option (String × String) :=
  let cs := s.toList
  if cs.contains '/' then
    some (String.ofList (cs.takeWhile (· != '/')), String.ofList ((cs.dropWhile (· != '/')).drop 1))
  else none

def lastSegment (s : String) : String :=
  String.ofList (s.toList.reverse.takeWhile (· != '/')).reverse

def firstLabel (s : String) : String := String.ofList (s.toList.takeWhile (· != '.'))

def parse (name : String) : Outcome HostName :=
  match splitFirst name with
  | none => .error (unsplittable (Text.quote name))
  | some (pool, rest) =>
    if pool.isEmpty || rest.isEmpty then .error (unsplittable (Text.quote name))
    else
      let display := lastSegment rest
      let node := firstLabel display
      if node.isEmpty then
        fail .hostName s!"Session host name has no node identifier: {Text.quote name}"
      else .ok ⟨pool, display, node⟩

/-- Parsing a dynamic value: text is parsed, a false value is unsplittable, and other values
fail as the membership test and split on them do. -/
def parseValue (v : Value) : Outcome HostName :=
  match v with
  | .str s => parse s
  | _ =>
    if !v.truthy then .error (unsplittable v.repr)
    else match v with
      | .list xs =>
        if xs.any (fun x => x.str? == some "/") then
          fail .missingAttribute "'list' object has no attribute 'split'"
        else .error (unsplittable v.repr)
      | .table kvs =>
        if kvs.any (·.1 == "/") then fail .missingAttribute "'dict' object has no attribute 'split'"
        else .error (unsplittable v.repr)
      | _ => fail .wrongType s!"argument of type {Text.quote v.typeName} is not iterable"

end HostName

end DesktopPool
