import DesktopPool.World.Basic

/-! Describing a world. A description is a table applied in a fixed order: the domain of host
names; nodes removed, then added or replaced (running and untagged unless told otherwise), then
their states set; host records removed, then added (an entry with a `name` is taken as given,
any other names the host `pool/node.domain` after its node), then their statuses set; slots
added (a slot named after its workload unless a name is given, assigned to `user-1` unless
assignments are given); workspaces and the registration token; and last the failure
injection, each given entry replacing the old one, a set of names made from any iterable.

Applying a description changes the world entry by entry: when an entry fails, the entries
before it stay applied. -/
namespace DesktopPool

namespace World

abbrev Build := ExceptT Fault (StateM World)

def lift {α : Type} (o : Outcome α) : Build α := ExceptT.mk (pure o)

/-- `v[key]`: the entry of a table, or the fault of indexing anything else. -/
def index (v : Value) (key : String) : Outcome Value :=
  match v with
  | .table kvs =>
    match kvs.lookup key with
    | some x => .ok x
    | none => DesktopPool.fail .missingKey (Text.quote key)
  | .list _ => DesktopPool.fail .wrongType "list indices must be integers or slices, not str"
  | .str _ => DesktopPool.fail .wrongType "string indices must be integers, not 'str'"
  | _ => DesktopPool.fail .wrongType s!"{Text.quote v.typeName} object is not subscriptable"

/-- `v.get(key, dflt)`. -/
def lookupOr (v : Value) (key : String) (dflt : Value) : Outcome Value := v.entryD key dflt

def entries (d : Value) (key : String) : Outcome (List Value) :=
  match d.get? key with
  | some v => v.iterate
  | none => .ok []

/-- The pairs of the description under `key`, which must be a table when present. -/
def pairs (d : Value) (key : String) : Outcome (List (String × Value)) :=
  match d.get? key with
  | some (.table kvs) => .ok kvs
  | some v => .error (v.noAttribute "items")
  | none => .ok []

def stateNamed (v : Value) : Outcome NodeState :=
  match v with
  | .str s =>
    match NodeState.ofName? s with
    | some st => .ok st
    | none => DesktopPool.fail .badValue s!"{v.repr} is not a valid NodeState"
  | _ => DesktopPool.fail .badValue s!"{v.repr} is not a valid NodeState"

/-- Add or replace a node from its entry: `id`, then its state, then its tags. -/
def addNode (n : Value) : Build Unit := do
  let id ← lift (index n "id")
  let state ← lift (stateNamed (← lift (lookupOr n "state" (.str "running"))))
  let tags ← lift ((← lift (lookupOr n "tags" .null)).orElse (.table [])).toTable
  let _ ← lift id.asKey
  modify fun w => w.putNode { id, state, tags := .table tags }

def setState (id : String) (st : Value) : Build Unit := do
  let state ← lift (stateNamed st)
  match (← get).node? (.str id) with
  | some n => modify fun w => w.putNode { n with state }
  | none => lift (missing (.str id))

/-- Add a host record from its entry: as given when it has a name, else named after its pool
and node. -/
def addHost (h : Value) : Build Unit := do
  if ← lift (h.includes (.str "name")) then
    let name ← lift (index h "name")
    let status ← lift (lookupOr h "status" .null)
    let sessions ← lift (lookupOr h "sessions" (.int 0))
    let _ ← lift name.asKey
    modify fun w => w.putHost { name, status, sessions }
  else
    let pool ← lift (index h "pool")
    let node ← lift (index h "node")
    let status ← lift (lookupOr h "status" .null)
    let resourceId := Value.str s!"/subscriptions/sub-id/virtualMachines/{node.text}"
    modify fun w => w.putHost { name := .str (w.hostName pool node), status := status, resourceId }

def setStatus (name : String) (st : Value) : Build Unit := do
  match (← get).host? (.str name) with
  | some h => modify fun w => w.putHost { h with status := st }
  | none => lift (missing (.str name))

/-- Add a slot from its entry: as given when it has a name (assigned to `user-1` when no
assignments are given), else named after its workload (also when the assignments are null). -/
def addSlot (s : Value) : Build Unit := do
  let (pool, slot, granted) ← if ← lift (s.includes (.str "name")) then do
      let name ← lift (index s "name")
      let workload ← lift (index s "workload_id")
      let pool ← lift (index s "pool")
      let granted ← lift (lookupOr s "assignments" (.list [.str "user-1"]))
      pure (pool, ({ name, workloadId := workload } : AppGroup), granted)
    else do
      let pool ← lift (index s "pool")
      let workload ← lift (index s "workload_id")
      let granted ← lift (lookupOr s "assignments" .null)
      let granted := if granted.isNull then .list [.str "user-1"] else granted
      pure (pool, ({ name := .str (workload.text ++ "-linux-avd"), workloadId := workload } : AppGroup), granted)
  let _ ← lift pool.asKey
  let _ ← lift slot.name.asKey
  modify fun w =>
    let w := w.setSlots pool (w.slotsOf pool ++ [slot])
    { w with assignments := Keyed.put Value.same w.assignments slot.name granted }

def inject (key : String) (v : Value) : Build Unit := do
  let asSet : Build (List Value) := lift v.toSet
  let f := (← get).fail
  let f ← match key with
    | "start" => do pure { f with start := ← asSet }
    | "delete" => do pure { f with delete := ← asSet }
    | "get" => do pure { f with get := ← asSet }
    | "never_ready" => do pure { f with neverReady := ← asSet }
    | "delete_hosts" => do pure { f with deleteHosts := ← asSet }
    | "delete_app_groups" => do pure { f with deleteSlots := ← asSet }
    | "assignments" => do pure { f with assignments := ← asSet }
    | "create_app_groups" => do pure { f with createSlots := ← asSet }
    | "assign" => do pure { f with assign := ← asSet }
    | "workspaces" => do pure { f with workspaces := ← asSet }
    | "creates" => pure { f with creates := v }
    | "scripts" => pure { f with scripts := v.truthy }
    | "list" => pure { f with list := v.truthy }
    | "list_hosts" => pure { f with listHosts := v.truthy }
    | "list_app_groups" => pure { f with listSlots := v.truthy }
    | "token" => pure { f with token := v.truthy }
    | _ => pure f
  modify fun w => { w with fail := f }

/-- Apply a description to the world, in the order of the module note. -/
def apply (d : Value) : Build Unit := do
  if let some dom := d.get? "domain" then modify fun w => { w with domain := dom }
  for id in ← lift (entries d "remove_nodes") do
    let _ ← lift id.asKey
    modify fun w => w.dropNode id
  for n in ← lift (entries d "nodes") do addNode n
  for (id, st) in ← lift (pairs d "set_state") do setState id st
  for name in ← lift (entries d "remove_hosts") do
    let _ ← lift name.asKey
    modify fun w => w.dropHost name
  for h in ← lift (entries d "hosts") do addHost h
  for (name, st) in ← lift (pairs d "set_status") do setStatus name st
  for s in ← lift (entries d "slots") do addSlot s
  for (ws, names) in ← lift (pairs d "workspaces") do
    let names ← lift names.iterate
    modify fun w => { w with workspaces := Keyed.put Value.same w.workspaces (.str ws) names }
  if let some t := d.get? "token" then modify fun w => { w with token := t }
  for (key, v) in ← lift (pairs d "fail") do inject key v

def describe (w : World) (d : Value) : World × Option Fault :=
  match (apply d).run.run w with
  | (.ok (), w) => (w, none)
  | (.error e, w) => (w, some e)

end World

end DesktopPool
