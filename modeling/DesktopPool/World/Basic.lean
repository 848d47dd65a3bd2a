import DesktopPool.Service

/-! An in-memory cloud: compute nodes with their power state, session host records, slots by
pool with their assignments, and workspaces. It keeps the order in which things were added (a
replaced entry keeps its place), records the calls that change it, and can be told to fail: sets
of names whose operations fail, a number of creations to refuse, and switches that make whole
listings fail. A node's host becomes `Available` when a pass waits for it and the node runs, as
an agent registering would make it.

Nodes are kept by id, hosts by name, slots by pool, assignments by slot name and workspaces by
name. Keys may be any hashable value, equal values being one key, and using a list or a table
as a key fails. The assignments of a slot are kept as they were given; listing them lists
whatever they hold, and granting one adds it to a list of them. -/
namespace DesktopPool

/-- Failure injection: which operations fail. -/
structure Injection where
  start : List Value := []
  delete : List Value := []
  get : List Value := []
  neverReady : List Value := []
  deleteHosts : List Value := []
  deleteSlots : List Value := []
  assignments : List Value := []
  createSlots : List Value := []
  assign : List Value := []
  workspaces : List Value := []
  /-- How many creations are still refused. -/
  creates : Value := .int 0
  scripts : Bool := false
  list : Bool := false
  listHosts : Bool := false
  listSlots : Bool := false
  token : Bool := false
  deriving Inhabited

/-- The calls that changed the world, in call order. -/
structure CallLog where
  created : List Value := []
  started : List Value := []
  stopped : List Value := []
  deletedNodes : List Value := []
  scripts : List (Value × Value) := []
  readyWaits : List (Value × Value) := []
  detached : List (Value × Value) := []
  deletedHosts : List Value := []
  deletedSlots : List Value := []
  deriving Inhabited

structure World where
  domain : Value := .str "corp.example.local"
  nodes : List ComputeNode := []
  hosts : List SessionHost := []
  slots : List (Value × List AppGroup) := []
  assignments : List (Value × Value) := []
  workspaces : List (Value × List Value) := []
  token : Value := .str "fake-registration-token"
  fail : Injection := {}
  log : CallLog := {}
  deriving Inhabited

namespace World

def computeFault {α : Type} (message : String) : Outcome α := DesktopPool.fail .compute message

def directoryFault {α : Type} (message : String) : Outcome α := DesktopPool.fail .directory message

def missing {α : Type} (k : Value) : Outcome α := DesktopPool.fail .missingKey k.repr

def hostName (w : World) (pool node : Value) : String := s!"{pool.text}/{node.text}.{w.domain.text}"

def node? (w : World) (id : Value) : Option ComputeNode := w.nodes.find? (·.id.same id)

def putNode (w : World) (n : ComputeNode) : World :=
  if w.nodes.any (·.id.same n.id) then
    { w with nodes := w.nodes.map fun x => if x.id.same n.id then n else x }
  else { w with nodes := w.nodes ++ [n] }

def dropNode (w : World) (id : Value) : World := { w with nodes := w.nodes.filter fun n => !n.id.same id }

def host? (w : World) (name : Value) : Option SessionHost := w.hosts.find? (·.name.same name)

def putHost (w : World) (h : SessionHost) : World :=
  if w.hosts.any (·.name.same h.name) then
    { w with hosts := w.hosts.map fun x => if x.name.same h.name then h else x }
  else { w with hosts := w.hosts ++ [h] }

def dropHost (w : World) (name : Value) : World :=
  { w with hosts := w.hosts.filter fun x => !x.name.same name }

def slotsOf (w : World) (pool : Value) : List AppGroup := (Keyed.find? Value.same w.slots pool).getD []

def setSlots (w : World) (pool : Value) (gs : List AppGroup) : World :=
  { w with slots := Keyed.put Value.same w.slots pool gs }

def modifyLog (f : CallLog → CallLog) : StateM World Unit :=
  modify fun w => { w with log := f w.log }

def guard {α : Type} (o : Outcome Bool) (onTrue : StateM World (Outcome α))
    (onFalse : StateM World (Outcome α)) : StateM World (Outcome α) :=
  match o with
  | .error e => pure (.error e)
  | .ok true => onTrue
  | .ok false => onFalse

/-! Compute operations. -/

def create (spec : NodeSpec) : StateM World (Outcome ComputeNode) := do
  let w ← get
  guard (w.fail.creates.relate .gt (.int 0))
    (match w.fail.creates.arith .sub (.int 1) with
      | .error e => pure (.error e)
      | .ok left => do
        set { w with fail := { w.fail with creates := left } }
        pure (computeFault s!"quota exceeded creating {spec.id.text}"))
    (match spec.tags.toTable, spec.id.asKey with
      | .error e, _ | _, .error e => pure (.error e)
      | .ok tags, .ok _ => do
        let n : ComputeNode := { id := spec.id, name := spec.name, state := .running, tags := .table tags }
        set (w.putNode n)
        modifyLog fun l => { l with created := l.created ++ [spec.id] }
        pure (.ok n))

def start (id : Value) : StateM World (Outcome Unit) := do
  let w ← get
  let refused := do pure ((← id.memberOf w.fail.start) || (w.node? id).isNone)
  guard refused (pure (computeFault s!"failed to start {id.text}")) do
    match w.node? id with
    | some n =>
      set (w.putNode { n with state := .running })
      modifyLog fun l => { l with started := l.started ++ [id] }
      pure (.ok ())
    | none => pure (computeFault s!"failed to start {id.text}")

def stop (id : Value) : StateM World (Outcome Unit) := do
  let w ← get
  match id.asKey with
  | .error e => pure (.error e)
  | .ok _ =>
    match w.node? id with
    | some n =>
      set (w.putNode { n with state := .deallocated })
      modifyLog fun l => { l with stopped := l.stopped ++ [id] }
      pure (.ok ())
    | none => pure (missing id)

def delete (id : Value) : StateM World (Outcome Unit) := do
  let w ← get
  guard (id.memberOf w.fail.delete) (pure (computeFault s!"failed to delete {id.text}")) do
    set (w.dropNode id)
    modifyLog fun l => { l with deletedNodes := l.deletedNodes ++ [id] }
    pure (.ok ())

def lookup (id : Value) (_ : Bool) : StateM World (Outcome (Option ComputeNode)) := do
  let w ← get
  guard (id.memberOf w.fail.get) (pure (computeFault s!"lookup failed for {id.text}"))
    (pure (.ok (w.node? id)))

def listAll (namePrefix : Value) : StateM World (Outcome (List ComputeNode)) := do
  let w ← get
  if w.fail.list then pure (computeFault "inventory unavailable")
  else if !namePrefix.truthy then pure (.ok w.nodes)
  else pure (w.nodes.filterM fun n => n.id.startsWith namePrefix)

def runScript (id script : Value) (_ _ : Value) : StateM World (Outcome Unit) := do
  let w ← get
  if w.fail.scripts then pure (computeFault s!"setup script failed on {id.text}")
  else
    modifyLog fun l => { l with scripts := l.scripts ++ [(id, script)] }
    pure (.ok ())

/-! Directory operations. -/

def listHosts (pool : Value) : StateM World (Outcome (List SessionHost)) := do
  let w ← get
  if w.fail.listHosts then pure (directoryFault s!"cannot list hosts of {pool.text}")
  else pure (w.hosts.filterM fun h => h.name.startsWith (.str (pool.text ++ "/")))

def deleteHost (h : SessionHost) : StateM World (Outcome Unit) := do
  let w ← get
  guard (h.name.memberOf w.fail.deleteHosts) (pure (directoryFault s!"failed to delete {h.name.text}")) do
    set (w.dropHost h.name)
    modifyLog fun l => { l with deletedHosts := l.deletedHosts ++ [h.name] }
    pure (.ok ())

def waitReady (pool id : Value) (timeout : Value) : StateM World (Outcome SessionHost) := do
  modifyLog fun l => { l with readyWaits := l.readyWaits ++ [(id, timeout)] }
  let w ← get
  let ready : Outcome Bool := do
    let _ ← id.asKey
    match w.node? id with
    | some n => pure (n.isRunning && !(← id.memberOf w.fail.neverReady))
    | none => pure false
  guard ready
    (do
      let name := Value.str (w.hostName pool id)
      let h := { ((w.host? name).getD { name }) with status := .str "Available" }
      set (w.putHost h)
      pure (.ok h))
    (pure (DesktopPool.fail .readyTimeout s!"{id.text} not ready after {timeout.text}s"))

def listSlots (pool : Value) : StateM World (Outcome (List AppGroup)) := do
  let w ← get
  if w.fail.listSlots then pure (directoryFault s!"cannot list application groups of {pool.text}")
  else pure (do let _ ← pool.asKey; pure (w.slotsOf pool))

def createSlot (pool name workload : Value) : StateM World (Outcome AppGroup) := do
  let w ← get
  guard (name.memberOf w.fail.createSlots) (pure (directoryFault s!"failed to create {name.text}")) do
    match pool.asKey with
    | .error e => pure (.error e)
    | .ok _ =>
      let g : AppGroup := { name, resourceId := .str s!"/applicationgroups/{name.text}", workloadId := workload }
      let w := w.setSlots pool ((w.slotsOf pool).filter (fun s => !s.name.same name) ++ [g])
      let w := if w.assignments.any (·.1.same name) then w
        else { w with assignments := w.assignments ++ [(name, .list [])] }
      set w
      pure (.ok g)

def deleteSlot (name : Value) : StateM World (Outcome Unit) := do
  let w ← get
  guard (name.memberOf w.fail.deleteSlots) (pure (directoryFault s!"failed to delete {name.text}")) do
    set { w with slots := w.slots.map fun (p, gs) => (p, List.filter (fun (g : AppGroup) => !g.name.same name) gs) }
    modifyLog fun l => { l with deletedSlots := l.deletedSlots ++ [name] }
    pure (.ok ())

def publish (workspace name : Value) : StateM World (Outcome Unit) := do
  let w ← get
  guard (workspace.memberOf w.fail.workspaces)
    (pure (directoryFault s!"cannot update workspace {workspace.text}")) do
    let refs := (Keyed.find? Value.same w.workspaces workspace).getD []
    let refs := if name.within refs then refs else refs ++ [name]
    set { w with workspaces := Keyed.put Value.same w.workspaces workspace refs }
    pure (.ok ())

def removeFirst (v : Value) : List Value → List Value
  | [] => []
  | x :: xs => if x.same v then xs else x :: removeFirst v xs

def unpublish (workspace name : Value) : StateM World (Outcome Unit) := do
  let w ← get
  guard (workspace.memberOf w.fail.workspaces)
    (pure (directoryFault s!"cannot update workspace {workspace.text}")) do
    match Keyed.find? Value.same w.workspaces workspace with
    | some refs =>
      if name.within refs then
        set { w with workspaces := Keyed.put Value.same w.workspaces workspace (removeFirst name refs) }
        modifyLog fun l => { l with detached := l.detached ++ [(workspace, name)] }
      pure (.ok ())
    | none => pure (.ok ())

def assignmentsOf (name : Value) : StateM World (Outcome (List Value)) := do
  let w ← get
  guard (name.memberOf w.fail.assignments)
    (pure (directoryFault s!"cannot list assignments of {name.text}"))
    (pure ((Keyed.find? Value.same w.assignments name).getD (.list [])).iterate)

/-- Grant `principal` in the assignments `granted`: nothing when it is already among them, and
adding it when they are a list. -/
def grant (granted principal : Value) : Outcome Value := do
  if ← granted.includes principal then return granted
  match granted with
  | .list xs => pure (.list (xs ++ [principal]))
  | v => .error (v.noAttribute "append")

def assign (name principal : Value) (_ : Value) : StateM World (Outcome Unit) := do
  let w ← get
  guard (name.memberOf w.fail.assign)
    (pure (directoryFault s!"cannot assign {principal.text} to {name.text}")) do
    let granted := (Keyed.find? Value.same w.assignments name).getD (.list [])
    let w := { w with assignments := Keyed.put Value.same w.assignments name granted }
    match grant granted principal with
    | .error e => do set w; pure (.error e)
    | .ok now =>
      set { w with assignments := Keyed.put Value.same w.assignments name now }
      pure (.ok ())

def registrationToken (pool : Value) : StateM World (Outcome Value) := do
  let w ← get
  if w.fail.token then pure (directoryFault s!"no registration token for {pool.text}")
  else pure (.ok w.token)

end World

end DesktopPool
