import DesktopPool.Service
import DesktopPool.Config.Settings
import DesktopPool.Setup.Script

/-! Creating and purging session hosts.

Creation allocates a node id (the template's name prefix and ten hex digits of a fresh number)
and runs five steps in order: create the node, fetch the pool's registration token, build the
setup script, run it on the node, wait for the host to report `Available`. The first step that
fails names the creation fault, which carries the node id, so a half-made node can be told
apart from an orphan.

A purge deletes the directory record and the node behind it, each independently; it never
fails, it reports what it managed to delete. -/
namespace DesktopPool

def poolTag : String := "avdpool-pool"

inductive CreationStep where
  | createNode | registrationToken | buildScript | runSetup | waitReady
  deriving DecidableEq, Repr

def CreationStep.name : CreationStep → String
  | .createNode => "create_node"
  | .registrationToken => "registration_token"
  | .buildScript => "build_script"
  | .runSetup => "run_setup"
  | .waitReady => "wait_ready"

structure PurgeResult where
  hostName : Value
  directoryDeleted : Bool
  nodeDeleted : Bool
  nodeId : Option String
  message : String
  deriving Inhabited

namespace PurgeResult

def success (p : PurgeResult) : Bool := p.directoryDeleted && p.nodeDeleted

def toTable (p : PurgeResult) : List (String × Value) :=
  [("host_name", p.hostName), ("directory_deleted", .bool p.directoryDeleted),
    ("node_deleted", .bool p.nodeDeleted), ("node_id", (p.nodeId.map Value.str).getD .null),
    ("message", .str p.message), ("success", .bool p.success)]

end PurgeResult

namespace Lifecycle

def nodeIdFor (s : Settings) (n : Nat) : String := s.template.namePrefix.text ++ Text.hexDigits 10 n

/-- The spec of a new node: the template, tagged with the owning pool. -/
def nodeSpec (s : Settings) (nodeId pool : Value) : Outcome NodeSpec := do
  let tags ← match s.template.tags with
    | .table kvs => pure (Table.set kvs poolTag pool)
    | v => fail .wrongType s!"{Text.quote v.typeName} object is not a mapping"
  pure { id := nodeId, name := nodeId, image := s.template.image, size := s.template.size,
         securityType := s.template.securityType, operatingSystem := s.template.operatingSystem,
         tags := .table tags }

variable {m : Type → Type} [Monad m] {α : Type}

/-- A creation step: any fault it raises becomes the creation fault of `nodeId` at `step`. -/
def stepOf (nodeId : String) (step : CreationStep) (x : Pass m α) : Pass m α :=
  tryCatch x fun e =>
    Pass.raise (.causedBy (.hostCreation step.name nodeId)
      s!"Session host {nodeId} failed at {step.name}: {e.message}" e)

def build (svc : Services m) (s : Settings) (pool : Value) (nodeId : String) : Pass m SessionHost := do
  let id := Value.str nodeId
  stepOf nodeId .createNode do
    let spec ← Pass.check (nodeSpec s id pool)
    let _ ← Pass.call (svc.compute.create spec)
  let token ← stepOf nodeId .registrationToken (Pass.call (svc.directory.registrationToken pool))
  let script ← stepOf nodeId .buildScript (Pass.check (SetupScript.build s.setup token svc.env))
  stepOf nodeId .runSetup
    (Pass.call (svc.compute.runScript id (.str script) s.timeouts.script s.timeouts.scriptPoll))
  stepOf nodeId .waitReady (Pass.call (svc.directory.waitReady pool id s.timeouts.createReady))

/-- Provision a new session host in `pool` and wait until it is available. -/
def create (svc : Services m) (s : Settings) (pool : Value) : Pass m SessionHost := do
  let n ← (svc.fresh : m Nat)
  build svc s pool (nodeIdFor s n)

/-- Delete a host's directory record and its node, each independently. -/
def purge (svc : Services m) (h : SessionHost) : m PurgeResult := do
  let nodeId := match h.parts with
    | .ok p => some p.node
    | .error _ => none
  let (dirDeleted, dirNote) ← do
    match ← svc.directory.deleteHost h with
    | .ok () => pure (true, [])
    | .error e => pure (false, [s!"directory: {e.message}"])
  let (nodeDeleted, nodeNote) ← do
    match nodeId with
    | none => pure (false, ["node: unknown node identifier"])
    | some id =>
      match ← svc.compute.delete (.str id) with
      | .ok () => pure (true, [])
      | .error e => pure (false, [s!"node: {e.message}"])
  let notes := dirNote ++ nodeNote
  pure ⟨h.name, dirDeleted, nodeDeleted, nodeId,
    if notes.isEmpty then "purged" else "; ".intercalate notes⟩

end Lifecycle

end DesktopPool
