import DesktopPool.Host.Session
import DesktopPool.Slot.Group
import DesktopPool.Node
import DesktopPool.Retry.Settings
import DesktopPool.Value.Access

/-! The two services a pass works against, as operations in an arbitrary monad `m`: the compute
service (nodes, their power, scripts run on them) and the host pool directory (session hosts,
slots, workspaces, assignments, registration tokens). Every operation may fail with a fault.
A pass also reads whether its caller has asked it to stop, draws fresh identifiers, and reads
the environment.

A pass keeps its own books beside the services: the reservation set of every pool and the
pools whose lock is held. `Pass m` runs over the services with the books as state and faults
as early exits; a fault keeps the books as they were when it was raised, so a lock taken
before a fault is still visible to the code that releases it. -/
namespace DesktopPool

/-- Compute nodes: create, start, stop, delete, look up, list (optionally by name prefix), and
run a setup script on a node with a deadline and a poll interval. Ids, pools and names are
dynamic values, passed on as the caller gave them. -/
structure ComputeService (m : Type → Type) where
  create : NodeSpec → m (Outcome ComputeNode)
  start : Value → m (Outcome Unit)
  stop : Value → m (Outcome Unit)
  delete : Value → m (Outcome Unit)
  get : Value → Bool → m (Outcome (Option ComputeNode))
  listAll : Value → m (Outcome (List ComputeNode))
  runScript : Value → Value → Value → Value → m (Outcome Unit)

/-- The host pool directory. `waitReady pool node timeout` blocks until the node's host reports
`Available`; `publish` and `unpublish` add a slot to and remove it from a workspace; `assign`
grants a principal of a type access to a slot. -/
structure DirectoryService (m : Type → Type) where
  listHosts : Value → m (Outcome (List SessionHost))
  deleteHost : SessionHost → m (Outcome Unit)
  waitReady : Value → Value → Value → m (Outcome SessionHost)
  listSlots : Value → m (Outcome (List AppGroup))
  createSlot : Value → Value → Value → m (Outcome AppGroup)
  deleteSlot : Value → m (Outcome Unit)
  publish : Value → Value → m (Outcome Unit)
  unpublish : Value → Value → m (Outcome Unit)
  assignments : Value → m (Outcome (List Value))
  assign : Value → Value → Value → m (Outcome Unit)
  registrationToken : Value → m (Outcome Value)

structure Services (m : Type → Type) where
  compute : ComputeService m
  directory : DirectoryService m
  /-- Whether the caller has asked the pass to stop. -/
  cancelled : m Bool
  /-- A fresh number for a new identifier. -/
  fresh : m Nat
  env : Env

/-- What a pass keeps between calls: reservation sets by pool, and the pools whose lock is
held. Pools are keys: any hashable value, equal values naming one pool. -/
structure Books where
  reservations : List (Value × List Value) := []
  locked : List Value := []
  deriving Inhabited

abbrev Pass (m : Type → Type) := ExceptT Fault (StateT Books m)

namespace Pass

variable {m : Type → Type} [Monad m] {α β : Type}

/-- A service call inside a pass: its fault, if any, becomes the pass's. -/
def call (x : m (Outcome α)) : Pass m α := ExceptT.mk (StateT.lift x)

/-- Run a step and keep its outcome instead of ending the pass with its fault. -/
def attempt (x : Pass m α) : Pass m (Outcome α) := ExceptT.lift x.run

def raise (f : Fault) : Pass m α := throw f

def check (o : Outcome α) : Pass m α := ExceptT.mk (pure o)

/-- Run a step over every item and wait for all of them, keeping each item's outcome. The
steps run one after another in the order of the items; callers use only the outcomes, never
their order. -/
def fanOut (f : α → Pass m β) (items : List α) : Pass m (List (α × Outcome β)) :=
  items.mapM fun x => do pure (x, ← attempt (f x))

end Pass

end DesktopPool
