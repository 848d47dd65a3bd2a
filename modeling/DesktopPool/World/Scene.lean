import DesktopPool.World.Basic

/-! The in-memory world as the services of a pass, with two hooks for driving a pass from the
outside: a planned failure (the `n`-th call of a named operation raises a service fault with a
given message instead of running) and a planned stop (right after the `n`-th call of a named
operation that ran, returning or failing, the pass is asked to stop). A call that the planned
failure replaces does not count toward the planned stop. The scene also draws the fresh numbers
of new node ids, counting from one. -/
namespace DesktopPool

/-- A planned failure of the `nth` call of `method`. -/
structure PlannedFailure where
  method : String
  nth : Nat
  message : String

/-- A planned stop after the `nth` call of `method`. -/
structure PlannedStop where
  method : String
  nth : Nat

structure Scene where
  world : World := {}
  failure : Option PlannedFailure := none
  stop : Option PlannedStop := none
  /-- Whether the running pass has been asked to stop. -/
  stopping : Bool := false
  /-- Calls per operation, and calls per operation that ran. -/
  calls : List (String × Nat) := []
  ran : List (String × Nat) := []
  drawn : Nat := 0
  deriving Inhabited

namespace Scene

def bump (counts : List (String × Nat)) (method : String) : List (String × Nat) × Nat :=
  let n := (counts.lookup method).getD 0 + 1
  (Keyed.put (· == ·) counts method n, n)

def plain {α : Type} (op : StateM World α) : StateM Scene α := do
  let sc ← get
  let (r, w) := op.run sc.world
  set { sc with world := w }
  pure r

/-- Run a world operation under the hooks; `kind` is the fault kind of the service. -/
def hooked {α : Type} (method : String) (kind : Kind) (op : StateM World (Outcome α)) :
    StateM Scene (Outcome α) := do
  let sc ← get
  let (counts, n) := bump sc.calls method
  set { sc with calls := counts }
  match sc.failure with
  | some f =>
    if f.method == method && f.nth == n then return .error (Fault.make kind f.message)
  | none => pure ()
  let r ← plain op
  let sc ← get
  let (ran, k) := bump sc.ran method
  let halt := match sc.stop with
    | some s => s.method == method && s.nth == k
    | none => false
  set { sc with ran, stopping := sc.stopping || halt }
  pure r

/-- The world as the services of a pass; `watch` says whether the pass heeds a planned stop. -/
def services (env : Env) (watch : Bool) : Services (StateM Scene) where
  compute := {
    create := fun spec => hooked "create" .compute (World.create spec)
    start := fun id => hooked "start" .compute (World.start id)
    stop := fun id => plain (World.stop id)
    delete := fun id => plain (World.delete id)
    get := fun id full => plain (World.lookup id full)
    listAll := fun p => hooked "list_all" .compute (World.listAll p)
    runScript := fun id script t poll => hooked "run_remote_script" .compute (World.runScript id script t poll) }
  directory := {
    listHosts := fun pool => hooked "list_hosts" .directory (World.listHosts pool)
    deleteHost := fun h => plain (World.deleteHost h)
    waitReady := fun pool id t => hooked "wait_for_ready" .directory (World.waitReady pool id t)
    listSlots := fun pool => hooked "list_app_groups" .directory (World.listSlots pool)
    createSlot := fun pool name w => plain (World.createSlot pool name w)
    deleteSlot := fun name => plain (World.deleteSlot name)
    publish := fun ws name => plain (World.publish ws name)
    unpublish := fun ws name => plain (World.unpublish ws name)
    assignments := fun name => plain (World.assignmentsOf name)
    assign := fun name p kind => plain (World.assign name p kind)
    registrationToken := fun pool =>
      hooked "retrieve_registration_token" .directory (World.registrationToken pool) }
  cancelled := do pure (watch && (← get).stopping)
  fresh := do
    let sc ← get
    set { sc with drawn := sc.drawn + 1 }
    pure (sc.drawn + 1)
  env := env

end Scene

end DesktopPool
