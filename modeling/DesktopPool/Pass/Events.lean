import DesktopPool.Pass.Reconcile

/-! Workload lifecycle events. A workload that is created or started first gets room (a pass
over its pool, which sizes the pool with one session of headroom) and then its slot: the
application group is created, published through the pool's workspace, and assigned to the
workload's user, or else to the configured users group, or to nobody (then the next rebuild
drops it). A workload that is stopped or deleted loses its slot (unpublished, then deleted,
each failure ignored) and then the pool gets a pass so it can shrink. -/
namespace DesktopPool

inductive WorkloadEvent where
  | created | started | stopped | deleted
  deriving DecidableEq, Repr

namespace WorkloadEvent

def name : WorkloadEvent → String
  | .created => "created" | .started => "started" | .stopped => "stopped" | .deleted => "deleted"

def all : List WorkloadEvent := [.created, .started, .stopped, .deleted]

/-- The event a value names; anything else is a `badValue` fault. -/
def ofValue (v : Value) : Outcome WorkloadEvent :=
  match v with
  | .str s =>
    match all.find? (·.name == s) with
    | some e => .ok e
    | none => fail .badValue s!"{v.repr} is not a valid WorkloadEvent"
  | _ => fail .badValue s!"{v.repr} is not a valid WorkloadEvent"

end WorkloadEvent

namespace Events

variable {m : Type → Type} [Monad m] {α : Type}

/-- The principal a new slot is granted to: the user when given, else the users group. -/
def grantFor (s : Settings) (user : Value) : Option (Value × String) :=
  if user.truthy then some (user, "User")
  else if s.usersGroupId.truthy then some (s.usersGroupId, "Group")
  else none

/-- A slot step: any fault it raises becomes the slot fault of `slot` at `step`. -/
def stepOf (slot step : String) (x : Pass m α) : Pass m α :=
  tryCatch x fun e =>
    Pass.raise (.causedBy (.slotProvisioning step slot)
      s!"Reservation slot {slot} failed at {step}: {e.message}" e)

/-- Create the workload's slot, publish it and grant access. -/
def openSlot (svc : Services m) (s : Settings) (pool workload user : Value) : Pass m AppGroup := do
  let name := s.slotName workload
  let workspace := s.workspaceName pool
  let slot ← stepOf name "create_app_group" (Pass.call (svc.directory.createSlot pool (.str name) workload))
  stepOf name "add_to_workspace" (Pass.call (svc.directory.publish (.str workspace) (.str name)))
  stepOf name "assign_principal" do
    match grantFor s user with
    | some (principal, kind) => Pass.call (svc.directory.assign (.str name) principal (.str kind))
    | none => pure ()
  pure slot

/-- Unpublish and delete the workload's slot, ignoring failures. -/
def removeSlot (svc : Services m) (s : Settings) (pool workload : Value) : m Unit := do
  let name := s.slotName workload
  let _ ← svc.directory.unpublish (.str (s.workspaceName pool)) (.str name)
  let _ ← svc.directory.deleteSlot (.str name)

end Events

def handleEvent {m : Type → Type} [Monad m] (svc : Services m) (s : Settings)
    (event pool workload user : Value) : Pass m ReconcileResult := do
  match ← Pass.check (WorkloadEvent.ofValue event) with
  | .created | .started =>
    let r ← ensureCapacity svc s pool
    let _ ← Events.openSlot svc s pool workload user
    pure r
  | .stopped | .deleted =>
    (Events.removeSlot svc s pool workload : m Unit)
    ensureCapacity svc s pool

end DesktopPool
