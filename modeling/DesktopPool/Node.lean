import DesktopPool.Value.Collection
import DesktopPool.Value.Keywords

/-! Compute nodes: their power states, the node records a provider reports, and the
specification of a node to create. A power state reported as text is read after trimming
blanks, lowering case, and dropping one leading `powerstate/` and then one leading `vm `;
anything that is not a state name then is `unknown`. Ids, names and tags are kept as they were
given, whatever their type; a specification built from named fields needs its id, name, image
and size. -/
namespace DesktopPool

inductive NodeState where
  | running | starting | stopping | stopped | deallocating | deallocated | unknown
  deriving DecidableEq, Repr, Inhabited

namespace NodeState

def name : NodeState → String
  | .running => "running"
  | .starting => "starting"
  | .stopping => "stopping"
  | .stopped => "stopped"
  | .deallocating => "deallocating"
  | .deallocated => "deallocated"
  | .unknown => "unknown"

def all : List NodeState := [.running, .starting, .stopping, .stopped, .deallocating, .deallocated, .unknown]

def ofName? (s : String) : Option NodeState := all.find? (·.name == s)

def dropPrefix (p s : String) : String :=
  if s.startsWith p then String.ofList (s.toList.drop p.length) else s

def ofPowerState (s : String) : NodeState :=
  let v := dropPrefix "vm " (dropPrefix "powerstate/" (Unicode.lower (Text.trim s)))
  (ofName? v).getD .unknown

/-- The state of a dynamic power-state value: false values are `unknown`. -/
def ofValue (v : Value) : Outcome NodeState :=
  if !v.truthy then .ok .unknown
  else match v with
    | .str s => .ok (ofPowerState s)
    | _ => fail .missingAttribute s!"{Text.quote v.typeName} object has no attribute 'strip'"

end NodeState

structure ComputeNode where
  id : Value
  name : Value := id
  state : NodeState := .unknown
  privateIp : Value := .null
  tags : Value := .table []
  deriving Inhabited

namespace ComputeNode

def isRunning (n : ComputeNode) : Bool := n.state == .running

def toTable (n : ComputeNode) : List (String × Value) :=
  [("node_id", n.id), ("name", n.name), ("state", .str n.state.name),
    ("private_ip", n.privateIp), ("tags", n.tags)]

end ComputeNode

structure NodeSpec where
  id : Value
  name : Value
  image : Value
  size : Value
  securityType : Value := .str "TrustedLaunch"
  operatingSystem : Value := .str "windows"
  description : Value := .str "a session host VM for a pooled host pool"
  tags : Value := .table []
  deriving Inhabited

namespace NodeSpec

def toTable (s : NodeSpec) : List (String × Value) :=
  [("node_id", s.id), ("name", s.name), ("image", s.image), ("size", s.size),
    ("security_type", s.securityType), ("operating_system", s.operatingSystem),
    ("description", s.description), ("tags", s.tags)]

def signature : Signature :=
  ⟨"NodeSpec.__init__", [("node_id", none), ("name", none), ("image", none), ("size", none),
    ("security_type", some (.str "TrustedLaunch")), ("operating_system", some (.str "windows")),
    ("description", some (.str "a session host VM for a pooled host pool")),
    ("tags", some (.table []))]⟩

/-- A specification from a table of named fields. -/
def ofValue (v : Value) : Outcome NodeSpec := do
  let kvs ← match v with
    | .table kvs => pure kvs
    | _ => fail .wrongType s!"avdpool.models.NodeSpec() argument after ** must be a mapping, not {v.typeName}"
  match ← signature.bind kvs with
  | [id, name, image, size, securityType, operatingSystem, description, tags] =>
    pure { id, name, image, size, securityType, operatingSystem, description, tags }
  | _ => fail .wrongType "NodeSpec.__init__() takes 8 arguments"

end NodeSpec

end DesktopPool
