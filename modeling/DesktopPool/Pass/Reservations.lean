import DesktopPool.Service
import DesktopPool.Text.Sort

/-! Reservations and pool locks.

A workload holds a reservation in a pool when its slot there is valid: the slot names a
workload, the workload's node exists and is running, and the slot has at least one
assignment. A rebuild lists the pool's slots and the node inventory once, judges every slot,
deletes the slots that name a missing or stopped workload or have no assignment (a failed
deletion is only noted), and swaps the valid workloads in as the pool's reservation set. A slot
whose workload cannot be judged (no workload, or its assignments cannot be listed) is kept but
grants nothing.

Reservation sets and locks are kept by pool, any hashable value, equal values naming one pool;
a reservation set holds each workload once. A held lock makes every other taker wait until its
deadline and then give up. -/
namespace DesktopPool

namespace Books

def reservationsOf (b : Books) (pool : Value) : List Value :=
  (Keyed.find? Value.same b.reservations pool).getD []

/-- Swap in a fresh reservation set for `pool`, other pools untouched. -/
def replaceReservations (b : Books) (pool : Value) (ids : List Value) : Books :=
  { b with reservations := Keyed.put Value.same b.reservations pool (Value.distinctKeys ids) }

def isLocked (b : Books) (pool : Value) : Bool := b.locked.any (·.same pool)

end Books

inductive Verdict where
  | valid | workloadMissing | workloadNotRunning | noAssignments | assignmentsUnavailable
  | unparseable
  deriving DecidableEq, Repr

variable {m : Type → Type} [Monad m]

namespace Locks

def waitTooLarge : String := "timestamp too large to convert to C _PyTime_t"

/-- A wait in whole seconds: its nanoseconds must fit a signed 64-bit count, and it may not be
negative but for `-1`, which asks for no limit. -/
def checkWholeWait (n : Int) : Outcome Unit :=
  if n > 9223372036 || n < -9223372036 then fail .overflow waitTooLarge
  else if n < 0 && n != -1 then fail .badValue "timeout value must be positive"
  else pure ()

/-- Whether a lock may be asked to wait `t` seconds. A fractional wait is counted in nanoseconds
rounded away from zero; the count must fit a signed 64-bit integer, and be not negative unless
it is exactly minus one second (no limit). Whole numbers and truth values count as whole
seconds; anything else is no number of seconds. -/
def checkWait (t : Value) : Outcome Unit :=
  match t with
  | .float x =>
    if x.isNaN then fail .badValue "Invalid value NaN (not a number)"
    else
      let ns := x * 1000000000.0
      let rounded := if ns < 0 then -((-ns).ceil) else ns.ceil
      if ns > 9223372036854775808.0 || ns < -9223372036854775808.0 then fail .overflow waitTooLarge
      else if rounded < 0 && rounded != -1000000000.0 then
        fail .badValue "timeout value must be positive"
      else pure ()
  | .int n => checkWholeWait n
  | .bool b => checkWholeWait (if b then 1 else 0)
  | other =>
    fail .wrongType s!"{Text.quote other.typeName} object cannot be interpreted as an integer"

/-- Take the lock of `pool`, waiting at most `wait` seconds when a limit is given; a lock
already held is not taken, whatever the deadline. A wait no lock can be asked for is refused
before the lock is looked at. -/
def acquire (pool : Value) (wait : Option Value) : Pass m Bool := do
  let _ ← Pass.check pool.asKey
  if let some t := wait then Pass.check (checkWait t)
  let b ← get
  if b.isLocked pool then pure false
  else
    set { b with locked := pool :: b.locked }
    pure true

def release (pool : Value) : Pass m Unit := do
  let _ ← Pass.check pool.asKey
  let b ← get
  if b.isLocked pool then set { b with locked := b.locked.filter fun p => !p.same pool }
  else Pass.raise (.make .misuse "release unlocked lock")

def isLocked (pool : Value) : Pass m Bool := do
  let _ ← Pass.check pool.asKey
  pure ((← get).isLocked pool)

/-- Give back the lock a pass took on `pool` and still holds. The pass looks its lock up under
the very key it took it with, and a key always finds itself: a key equal to itself finds the one
lock held under an equal key, and one equal to nothing, not even itself (a float NaN), finds by
identity alone the lock taken last, its own. -/
def giveBack (pool : Value) : Pass m Unit :=
  modify fun b => { b with locked := b.locked.eraseP fun p => !pool.same pool || p.same pool }

end Locks

namespace Reservations

/-- The node of a workload in the inventory, by key (the last node of an id wins); lists and
tables cannot be looked up at all. -/
def lookup (inventory : List ComputeNode) (workload : Value) : Outcome (Option ComputeNode) := do
  let k ← workload.asKey
  pure ((inventory.filter (·.id.same k)).getLast?)

def invalidate (svc : Services m) (slot : AppGroup) (v : Verdict) : Pass m Verdict := do
  let _ ← (svc.directory.deleteSlot slot.name : m (Outcome Unit))
  pure v

/-- Judge one slot against the inventory, deleting it when it grants no reservation. -/
def validate (svc : Services m) (inventory : List ComputeNode) (slot : AppGroup) :
    Pass m Verdict := do
  if !slot.workloadId.truthy then return .unparseable
  match ← Pass.check (lookup inventory slot.workloadId) with
  | none => invalidate svc slot .workloadMissing
  | some node =>
    if !node.isRunning then invalidate svc slot .workloadNotRunning
    else
      match ← (svc.directory.assignments slot.name : m (Outcome (List Value))) with
      | .error _ => pure .assignmentsUnavailable
      | .ok granted =>
        if granted.isEmpty then invalidate svc slot .noAssignments else pure .valid

def rebuild (svc : Services m) (pool : Value) : Pass m (List Value) := do
  let slots ← tryCatch (Pass.call (svc.directory.listSlots pool)) fun e =>
    Pass.raise (.causedBy .rebuild s!"Failed to list slots for pool {pool.text}: {e.message}" e)
  let inventory ← tryCatch (do
      let nodes ← Pass.call (svc.compute.listAll .null)
      Pass.check (nodes.mapM fun n => do let _ ← n.id.asKey; pure n)) fun e =>
    Pass.raise (.causedBy .rebuild s!"Failed to fetch workload inventory: {e.message}" e)
  let outcomes ← Pass.fanOut (validate svc inventory) slots
  let fresh := outcomes.filterMap fun (slot, o) =>
    match o with
    | .ok .valid => some slot.workloadId
    | _ => none
  let _ ← Pass.check pool.asKey
  modify fun b => b.replaceReservations pool fresh
  pure (Value.distinctKeys fresh)

end Reservations

end DesktopPool
