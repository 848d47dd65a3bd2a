import DesktopPool.Pass.Classify
import DesktopPool.Pass.Lifecycle
import DesktopPool.Pass.Reservations
import DesktopPool.Capacity.Plan
import DesktopPool.Value.Access

/-! One reconciliation pass of a pool, under the pool's lock:

Locking → rebuilding reservations → listing hosts → classifying → computing the target →
deleting stale hosts → resuming sleeping hosts → creating new hosts → deleting (or keeping) the
surplus → sweeping orphan nodes → done.

The lock timeout, the rebuild and the host listing are fatal: the pass stops before touching
any host. A failed resume or creation is counted and the pass goes on, possibly short of its
target. Deletions are best effort. Before each stage up to the sweep, and before each resume
and each creation, a pass stops if its caller asked it to. The lock is released however the
pass ends.

The orphan sweep deletes the nodes tagged with this pool (compared without case) whose name has
the template's prefix and that back no host listed in this pass and no node this pass tried to
create. -/
namespace DesktopPool

structure ReconcileResult where
  pool : Value
  reservations : Nat := 0
  target : Value := .int 0
  upCount : Nat := 0
  plan : Option CapacityPlan := none
  resumed : List Value := []
  failedResumes : List Value := []
  created : List Value := []
  failedCreations : Nat := 0
  stalePurged : List PurgeResult := []
  surplusPurged : List PurgeResult := []
  keptPoweredOff : List Value := []
  orphansDeleted : List Value := []
  deriving Inhabited

namespace ReconcileResult

/-- Enough hosts are up; a target that does not compare counts as not reached. -/
def converged (r : ReconcileResult) : Bool :=
  match (Value.int r.upCount).relate .ge r.target with
  | .ok b => b
  | .error _ => false

def deletions (r : ReconcileResult) : Nat :=
  r.stalePurged.length + r.surplusPurged.length + r.orphansDeleted.length

def failures (r : ReconcileResult) : Nat := r.failedResumes.length + r.failedCreations

def summary (r : ReconcileResult) : String :=
  s!"up {r.upCount}/{r.target.text} for {r.reservations} reservations " ++
  s!"(resumed {r.resumed.length}, created {r.created.length}, " ++
  s!"failed {r.failures}, deleted {r.deletions})"

end ReconcileResult

namespace Reconcile

variable {m : Type → Type} [Monad m]

def checkpoint (svc : Services m) (pool : Value) : Pass m Unit := do
  if ← (svc.cancelled : m Bool) then
    Pass.raise (.make .cancelled s!"Reconciliation of pool {pool.text} was cancelled")

/-- Seconds as lock messages show them: no places. -/
def wholeSeconds (v : Value) : Outcome String := do
  pure (FloatText.fixed (← v.toDouble) 0)

/-- Take the pool lock or fail with the lock timeout; a lock timeout no lock can wait for fails
first. -/
def lockPool (s : Settings) (pool : Value) : Pass m Unit := do
  if ← Locks.isLocked pool then
    Pass.check (Locks.checkWait s.timeouts.lock)
    let shown ← Pass.check (wholeSeconds s.timeouts.lock)
    Pass.raise (.make .lockTimeout
      s!"Timed out after {shown}s waiting for capacity lock of pool {pool.text}")
  let _ ← Locks.acquire pool (some s.timeouts.lock)

def locked {α : Type} (s : Settings) (pool : Value) (body : Pass m α) : Pass m α := do
  lockPool s pool
  let r ← Pass.attempt body
  Locks.giveBack pool
  Pass.check r

def nodeIds (hosts : List SessionHost) : List String :=
  hosts.filterMap fun h => match h.parts with
    | .ok p => some (Unicode.lower p.node)
    | .error _ => none

def purgeAll (svc : Services m) (hosts : List SessionHost) : Pass m (List PurgeResult) := do
  let outcomes ← Pass.fanOut (fun h => (Lifecycle.purge svc h : m PurgeResult)) hosts
  pure (outcomes.filterMap fun (_, o) => o.toOption)

structure Progress where
  up : List SessionHost
  known : List String
  resumed : List Value := []
  failedResumes : List Value := []
  created : List Value := []
  failedCreations : Nat := 0

def short (target : Value) (p : Progress) : Pass m Bool :=
  Pass.check ((Value.int p.up.length).relate .lt target)

/-- Start the node behind a sleeping host and wait until its host is ready. -/
def wake (svc : Services m) (s : Settings) (pool : Value) (h : SessionHost) : Pass m SessionHost := do
  let parts ← Pass.check h.parts
  Pass.call (svc.compute.start (.str parts.node))
  Pass.call (svc.directory.waitReady pool (.str parts.node) s.timeouts.resumeReady)

/-- Resume sleeping hosts from the front of the queue while the pool is short; returns the
hosts never tried. -/
def resume (svc : Services m) (s : Settings) (pool : Value) (target : Value) :
    List SessionHost → Progress → Pass m (Progress × List SessionHost)
  | [], p => pure (p, [])
  | h :: queue, p => do
    if !(← short target p) then return (p, h :: queue)
    checkpoint svc pool
    let woken ← Pass.attempt (wake svc s pool h)
    match woken with
    | .ok ready =>
      resume svc s pool target queue
        { p with up := p.up ++ [ready], resumed := p.resumed ++ [h.name] }
    | .error _ => resume svc s pool target queue { p with failedResumes := p.failedResumes ++ [h.name] }

def createHosts (svc : Services m) (s : Settings) (pool : Value) : Nat → Progress → Pass m Progress
  | 0, p => pure p
  | count + 1, p => do
    checkpoint svc pool
    match ← Pass.attempt (Lifecycle.create svc s pool) with
    | .ok host =>
      createHosts svc s pool count
        { p with known := p.known ++ nodeIds [host], up := p.up ++ [host],
                 created := p.created ++ [host.name] }
    | .error e =>
      match e.kind with
      | .hostCreation _ node =>
        createHosts svc s pool count
          { p with known := p.known ++ [Unicode.lower node], failedCreations := p.failedCreations + 1 }
      | _ => Pass.raise e

/-- The number of creation attempts that close the gap to the target: none when the gap is not
positive, and a gap that is not whole cannot be counted. -/
def attemptsFor (target : Value) (up : Nat) : Outcome Nat := do
  let needed ← target.arith .sub (.int up)
  if ← needed.relate .le (.int 0) then return 0
  match ← needed.arith .add (.int 1) with
  | .int n => pure (n - 1).toNat
  | v => fail .wrongType s!"{Text.quote v.typeName} object cannot be interpreted as an integer"

/-- Whether a node carries the tag of `pool`, compared without case. -/
def ownedBy (pool : Value) (n : ComputeNode) : Outcome Bool := do
  match ← n.tags.entry poolTag with
  | .null => pure false
  | owner => pure ((← owner.lower) == (← pool.lower))

/-- Delete this pool's prefixed nodes that back no known host; returns the deleted ids. -/
def sweep (svc : Services m) (s : Settings) (pool : Value) (known : List String) :
    Pass m (List Value) := do
  match ← (svc.compute.listAll s.template.namePrefix : m (Outcome (List ComputeNode))) with
  | .error _ => pure []
  | .ok nodes =>
    let owned ← Pass.check (nodes.filterM (ownedBy pool))
    let orphans ← Pass.check (owned.filterM fun n => do pure !(known.contains (← n.id.lower)))
    let orphans := orphans.map (·.id)
    let outcomes ← Pass.fanOut (fun id => Pass.call (svc.compute.delete id)) orphans
    pure (outcomes.filterMap fun (id, o) => o.toOption.map fun _ => id)

/-- Delete the hosts left in the resume queue when the settings say so, or keep them powered
off; returns the purge results and the names kept. -/
def disposeSurplus (svc : Services m) (s : Settings) (surplus : List SessionHost) :
    Pass m (List PurgeResult × List Value) :=
  if surplus.isEmpty then pure ([], [])
  else if s.scaling.deleteSurplus.truthy then do pure (← purgeAll svc surplus, [])
  else pure ([], surplus.map (·.name))

def sweepOrphans (svc : Services m) (s : Settings) (pool : Value) (known : List String) :
    Pass m (List Value) :=
  if s.sweepOrphans.truthy then do
    checkpoint svc pool
    sweep svc s pool known
  else pure []

/-- What a pass learns before it changes anything: the reservations, the hosts of the pool, how
they are classified, and the plan. -/
structure Survey where
  reservations : List Value
  hosts : List SessionHost
  classes : Classification
  plan : CapacityPlan

def assess (svc : Services m) (s : Settings) (pool : Value) (reservations : List Value) :
    Pass m Survey := do
  checkpoint svc pool
  let hosts ← tryCatch (Pass.call (svc.directory.listHosts pool)) fun e =>
    Pass.raise (.causedBy .reconcile s!"Failed to list session hosts of pool {pool.text}: {e.message}" e)
  checkpoint svc pool
  let c ← (classify svc.compute hosts : m Classification)
  checkpoint svc pool
  let plan ← Pass.check (s.scaling.plan (.int reservations.length) (.int c.up.length))
  pure ⟨reservations, hosts, c, plan⟩

def survey (svc : Services m) (s : Settings) (pool : Value) : Pass m Survey := do
  checkpoint svc pool
  assess svc s pool (← Reservations.rebuild svc pool)

/-- Deleting stale hosts, resuming sleeping ones, creating new ones, deleting or keeping the
surplus, and sweeping orphan nodes. -/
def converge (svc : Services m) (s : Settings) (pool : Value) (v : Survey) :
    Pass m ReconcileResult := do
  let target := v.plan.target
  let stale ← purgeAll svc v.classes.stale
  checkpoint svc pool
  let (p, surplus) ←
    resume svc s pool target v.classes.resumable { up := v.classes.up, known := nodeIds v.hosts }
  checkpoint svc pool
  let p ← createHosts svc s pool (← Pass.check (attemptsFor target p.up.length)) p
  checkpoint svc pool
  let (surplusPurged, kept) ← disposeSurplus svc s surplus
  let orphans ← sweepOrphans svc s pool p.known
  pure { pool, reservations := v.reservations.length, target, upCount := p.up.length,
         plan := some v.plan, resumed := p.resumed, failedResumes := p.failedResumes,
         created := p.created, failedCreations := p.failedCreations, stalePurged := stale,
         surplusPurged, keptPoweredOff := kept, orphansDeleted := orphans }

/-- The stages of a pass after the lock is taken: the survey, then, past the checkpoint where
deleting starts, the converging stages. -/
def stages (svc : Services m) (s : Settings) (pool : Value) : Pass m ReconcileResult := do
  let v ← survey svc s pool
  checkpoint svc pool
  converge svc s pool v

end Reconcile

variable {m : Type → Type} [Monad m]

def ensureCapacity (svc : Services m) (s : Settings) (pool : Value) : Pass m ReconcileResult := do
  Reconcile.checkpoint svc pool
  Reconcile.locked s pool (Reconcile.stages svc s pool)

def rebuildReservations (svc : Services m) (s : Settings) (pool : Value) :
    Pass m (List Value) :=
  Reconcile.locked s pool (Reservations.rebuild svc pool)

end DesktopPool
