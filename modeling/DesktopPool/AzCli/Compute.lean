import DesktopPool.AzCli.Executor
import DesktopPool.Service
import DesktopPool.Config.Settings
import DesktopPool.Value.Access

/-! The compute service over `az vm`: nodes are virtual machines of one resource group. New
machines get no public address and no network security group, and their disks and network
interfaces go with them; the admin password comes from the environment. Setup scripts run as an
asynchronous managed run-command whose instance view is polled until it reaches a final state
or the deadline passes. Deleting a machine that is already gone succeeds. Ids, names and the
settings go into the commands as they were given; messages show them as text. -/
namespace DesktopPool

namespace AzCli

structure ComputeTarget where
  resourceGroup : Value
  location : Value
  template : HostTemplate
  subnetId : Value

def ComputeTarget.ofSettings (s : Settings) : Outcome ComputeTarget :=
  let rg := s.resourceGroup.orElse (.str "")
  if !rg.truthy then fail .compute "resource_group is required"
  else .ok ⟨rg, s.location, s.template, s.subnetId⟩

/-- States in which a run-command has finished. -/
def finalStates : List String := ["Succeeded", "Failed", "TimedOut", "Canceled"]

/-- A node from a machine listing entry: the power state is read before the addresses. -/
def nodeOf (vm : Value) : Outcome ComputeNode := do
  let name ← vm.entryD "name" (.str "")
  let ips := (← vm.entry "privateIps").orElse (.str "")
  let state ← NodeState.ofValue (← vm.entry "powerState")
  let first ← match ips with
    | .str s => pure ((s.splitOn ",").headD "")
    | v => .error (v.noAttribute "split")
  let tags := (← vm.entry "tags").orElse (.table [])
  pure { id := name, name, state, privateIp := if first.isEmpty then .null else .str first, tags }

variable {m : Type → Type} [Monad m]

namespace Compute

def vmRun (sh : Shell m) (cmd : List Value) (op target : String) (timeout : Value) :
    Az m Command.Completion :=
  tryCatch (runCommand sh cmd { timeout }) fun e =>
    if e.kind.isA .cli then throw (.causedBy .compute s!"VM {op} failed for {target}: {e.message}" e)
    else if e.kind == .processFailed then
      let err := Text.trim (e.stderr.getD "")
      throw (.causedBy .compute s!"VM {op} failed for {target}: {err}" e)
    else if e.kind == .processTimeout then throw (.causedBy .compute s!"VM {op} timed out for {target}" e)
    else throw e

def vmJson (sh : Shell m) (cmd : List Value) (op target : String) (o : Options) : Az m Value :=
  tryCatch (runJson sh cmd o) fun e =>
    if e.kind.isA .cli then throw (.causedBy .compute s!"VM {op} failed for {target}: {e.message}" e)
    else throw e

def lift {α : Type} (o : Outcome α) : Az m α := ExceptT.mk (pure o)

/-- The admin password from the environment; a missing or empty one is a compute fault. -/
def password (sh : Shell m) (t : ComputeTarget) : Az m String := do
  let unset := s!"Admin password not set (environment variable {t.template.adminPasswordEnv.text})"
  match ← lift (sh.env.find t.template.adminPasswordEnv) with
  | some p => if p.isEmpty then lift (fail .compute unset) else pure p
  | none => lift (fail .compute unset)

/-- The tag arguments of a spec: none for false tags, `key=value` for each entry of a table. -/
def tagWords (tags : Value) : Outcome (List Value) :=
  if !tags.truthy then .ok []
  else match tags with
    | .table kvs => .ok (.str "--tags" :: kvs.map fun (k, v) => .str (k ++ "=" ++ v.text))
    | v => .error (v.noAttribute "items")

def create (sh : Shell m) (t : ComputeTarget) (spec : NodeSpec) : Az m ComputeNode := do
  let pw ← password sh t
  let cmd := words ["az", "vm", "create", "--name"] ++ [spec.name, .str "--computer-name", spec.id,
    .str "--resource-group", t.resourceGroup, .str "--location", t.location, .str "--image", spec.image,
    .str "--size", spec.size, .str "--security-type", spec.securityType,
    .str "--admin-username", t.template.adminUsername, .str "--admin-password", .str pw] ++
    words ["--public-ip-address", "", "--nsg", "", "--os-disk-delete-option", "Delete",
      "--nic-delete-option", "Delete"]
  let cmd := if t.subnetId.truthy then cmd ++ [.str "--subnet", t.subnetId] else cmd
  let cmd := cmd ++ (← lift (tagWords spec.tags))
  let data ← vmJson sh cmd "create" spec.id.text { timeout := .int 900, attempts := .int 1 }
  let state ← lift (NodeState.ofValue (← lift (data.entryOrEmpty "powerState")))
  let ip := (← lift (data.entryOrEmpty "privateIpAddress")).orElse .null
  let tags ← lift spec.tags.toTable
  pure { id := spec.id, name := spec.name, state, privateIp := ip, tags := .table tags }

def start (sh : Shell m) (t : ComputeTarget) (id : Value) : Az m Unit := do
  let _ ← vmRun sh (words ["az", "vm", "start", "--name"] ++ [id, .str "--resource-group", t.resourceGroup])
    "start" id.text (.int 600)

def stop (sh : Shell m) (t : ComputeTarget) (id : Value) : Az m Unit := do
  let _ ← vmRun sh (words ["az", "vm", "deallocate", "--name"] ++ [id, .str "--resource-group", t.resourceGroup])
    "stop" id.text (.int 600)

def delete (sh : Shell m) (t : ComputeTarget) (id : Value) : Az m Unit :=
  tryCatch (do
    let _ ← vmRun sh (words ["az", "vm", "delete", "--name"] ++
      [id, .str "--resource-group", t.resourceGroup, .str "--yes"]) "delete" id.text (.int 600))
    fun e => if e.kind == .compute && e.cause == some .notFound then pure () else throw e

def get (sh : Shell m) (t : ComputeTarget) (id : Value) (full : Bool) : Az m (Option ComputeNode) := do
  let cmd := words ["az", "vm", "show", "--name"] ++ [id, .str "--resource-group", t.resourceGroup]
  let cmd := if full then cmd ++ [.str "--show-details"] else cmd
  let found : Option Value ← tryCatch (do pure (some (← runJson sh cmd {}))) fun e =>
    if e.kind == .notFound then pure none
    else if e.kind.isA .cli then throw (.causedBy .compute s!"Failed to look up VM {id.text}: {e.message}" e)
    else throw e
  match found with
  | none => pure none
  | some data => if !data.truthy then pure none else do pure (some (← lift (nodeOf data)))

def listAll (sh : Shell m) (t : ComputeTarget) (namePrefix : Value) : Az m (List ComputeNode) := do
  let cmd := words ["az", "vm", "list", "--resource-group"] ++ [t.resourceGroup, .str "--show-details"]
  let data ← vmJson sh cmd "list" t.resourceGroup.text { timeout := .int 120 }
  let nodes ← lift ((← lift data.items).mapM nodeOf)
  if !namePrefix.truthy then pure nodes
  else lift (nodes.filterM fun n => n.id.startsWith namePrefix)

/-- The run-command on `id` with its instance view, as a status poll. -/
def viewRun (sh : Shell m) (t : ComputeTarget) (id : Value) : Az m Value :=
  vmJson sh (words ["az", "vm", "run-command", "show", "--name", "avdpool-setup", "--vm-name"] ++
    [id, .str "--resource-group", t.resourceGroup, .str "--instance-view"]) "run_remote_script" id.text
    { poll := true }

/-- What a view of the run-command on `id` says: done when it succeeded, a compute fault when it
ended otherwise, and else the state it is in. -/
def judgeRun (id data : Value) : Outcome (Unit ⊕ Value) := do
  let view := (← data.entryOrEmpty "instanceView").orElse (.table [])
  let state ← view.entry "executionState"
  if finalStates.any (← state.asKey).isText then
    if state.isText "Succeeded" then pure (.inl ())
    else
      let err := ((← view.entry "error").orElse (← view.entry "errorMessage")).orElse (.str "")
      let message := s!"Setup script on {id.text} ended in state {state.text}: {err.text}"
      fail .compute (String.ofList (message.toList.reverse.dropWhile (fun c => c == ':' || c == ' ')).reverse)
  else pure (.inr state)

def scriptRound (sh : Shell m) (t : ComputeTarget) (id : Value) (_ : Value) : Az m (Unit ⊕ Value) := do
  let data ← viewRun sh t id
  lift (judgeRun id data)

/-- Poll the run-command on `id` until it ends or `deadline` passes. -/
def await (sh : Shell m) (t : ComputeTarget) (id : Value) (timeout deadline poll : Value) :
    Nat → Value → Az m Unit :=
  pollUntil sh poll deadline (scriptRound sh t id)
    (fun state => do
      let shown ← lift (timeout.fixedText 0)
      lift (fail .compute s!"Setup script on {id.text} did not finish within {shown}s (state: {state.text})"))
    (lift (fail .endless s!"Waiting for the setup script on {id.text} never ends"))

def runScript (sh : Shell m) (t : ComputeTarget) (id script timeout poll : Value) : Az m Unit := do
  let seconds ← lift timeout.toWhole
  let _ ← vmRun sh (words ["az", "vm", "run-command", "create", "--name", "avdpool-setup", "--vm-name"] ++
    [id, .str "--resource-group", t.resourceGroup, .str "--location", t.location,
      .str "--async-execution", .str "true", .str "--timeout-in-seconds", .str (toString seconds),
      .str "--script", script]) "run_remote_script" id.text (.int 600)
  let deadline ← lift ((← (sh.clock : m Value)).arith .add timeout)
  await sh t id timeout deadline poll pollRounds .null

end Compute

def computeService (sh : Shell m) (t : ComputeTarget) : ComputeService m where
  create := fun spec => (Compute.create sh t spec).run
  start := fun id => (Compute.start sh t id).run
  stop := fun id => (Compute.stop sh t id).run
  delete := fun id => (Compute.delete sh t id).run
  get := fun id full => (Compute.get sh t id full).run
  listAll := fun p => (Compute.listAll sh t p).run
  runScript := fun id script timeout poll => (Compute.runScript sh t id script timeout poll).run

end AzCli

end DesktopPool
