import DesktopPool.Pass.Events
import DesktopPool.World.Scene
import DesktopPool.World.Setup
import DesktopPool.Text.Sort
import DesktopPool.Json.Write

/-! Simulated runs: a script of steps against one in-memory world, with one reconciler whose
reservation books and pool locks live as long as the run. Each step reports its result (or
fault), the calls that changed the world during the step, and the world after it. Lists whose
order would depend on the completion order of parallel work are reported sorted. A step that
plans both a failure and a stop on the same operation reports, whatever it did, the fault of
taking the second hook off that operation after it: its calls and world stay as the step left
them. -/
namespace DesktopPool

namespace Simulation

/-- The settings a run starts from; a run's own settings are laid over them. -/
def baseline : Value := .table [
  ("resource_group", .str "avd-test-rg"), ("max_workers", .int 4),
  ("scaling", .table [("max_sessions_per_host", .int 2), ("min_hosts", .int 1), ("max_hosts", .int 10)]),
  ("timeouts", .table [("lock_timeout_seconds", .float 5.0), ("resume_ready_timeout", .float 30.0),
    ("create_ready_timeout", .float 60.0), ("script_timeout", .float 120.0),
    ("script_poll_interval", .float 1.0), ("ready_poll_interval", .float 1.0)]),
  ("setup_script", .table [("avd_agent_url", .str "https://example.invalid/RDAgent.msi"),
    ("avd_bootloader_url", .str "https://example.invalid/RDAgentBootLoader.msi")])]

/-- JSON text with sorted keys, the order results of parallel work are reported in. -/
def canonical (v : Value) : String := Json.write ⟨", ", ": ", true, false⟩ v

def sortedBy {α : Type} (key : α → String) (xs : List α) : List α :=
  xs.mergeSort fun a b => Text.compareText (key b) (key a) != .lt

/-- Items in the order of their keys as values; items whose keys do not compare stay as they
are. -/
def ordered {α : Type} (key : α → Value) (xs : List α) : List α :=
  (Sorting.sortOn key xs).toOption.getD xs

def purgeView (ps : List PurgeResult) : Value :=
  .list (sortedBy canonical (ps.map fun p => .table p.toTable))

def resultView (r : ReconcileResult) : Value := .table [
  ("pool", r.pool), ("reservations", .int r.reservations), ("target", r.target),
  ("up_count", .int r.upCount), ("plan", (r.plan.map fun p => Value.table p.toTable).getD .null),
  ("resumed", .list r.resumed), ("failed_resumes", .list r.failedResumes),
  ("created", .list r.created), ("failed_creations", .int r.failedCreations),
  ("stale_purged", purgeView r.stalePurged), ("surplus_purged", purgeView r.surplusPurged),
  ("kept_powered_off", .list r.keptPoweredOff),
  ("orphans_deleted", .list (ordered id r.orphansDeleted)),
  ("converged", .bool r.converged), ("deletions", .int r.deletions), ("summary", .str r.summary)]

def classificationView (c : Classification) : Value := .table [
  ("up", .list (c.up.map (·.name))), ("resumable", .list (c.resumable.map (·.name))),
  ("to_delete", .list (c.stale.map (·.name))), ("total", .int c.total), ("summary", .str c.summary)]

def callsView (l : CallLog) : Value :=
  let pairs := fun (xs : List (Value × Value)) => Value.list (xs.map fun (a, b) => .list [a, b])
  let entries : List (String × Value × Bool) := [
    ("created", .list l.created, !l.created.isEmpty),
    ("started", .list l.started, !l.started.isEmpty),
    ("ready_waits", pairs l.readyWaits, !l.readyWaits.isEmpty),
    ("detached", pairs l.detached, !l.detached.isEmpty),
    ("scripts", pairs l.scripts, !l.scripts.isEmpty),
    ("deleted_nodes", .list (ordered id l.deletedNodes), !l.deletedNodes.isEmpty),
    ("deleted_hosts", .list (ordered id l.deletedHosts), !l.deletedHosts.isEmpty),
    ("deleted_app_groups", .list (ordered id l.deletedSlots), !l.deletedSlots.isEmpty)]
  .table (entries.filterMap fun (k, v, keep) => if keep then some (k, v) else none)

/-- The world after a step. Its assignments and workspaces are those at the end of the run
(`final`): a report shares them with the world, which later steps go on changing. -/
def worldView (w final : World) : Value := .table [
  ("nodes", .list ((ordered (·.id) w.nodes).map fun n =>
    .table [("id", n.id), ("state", .str n.state.name), ("tags", n.tags)])),
  ("hosts", .list ((ordered (·.name) w.hosts).map fun h =>
    .table [("name", h.name), ("status", h.status)])),
  ("app_groups", .table (w.slots.map fun (p, gs) => (p.keyText, .list (gs.map fun g => .table g.toTable)))),
  ("assignments", .table (final.assignments.map fun (k, v) => (k.keyText, v))),
  ("workspaces", .table (final.workspaces.map fun (k, vs) => (k.keyText, .list vs)))]

def countOf (v : Value) : Nat :=
  match v with
  | .int n => n.toNat
  | .bool true => 1
  | _ => 0

def failureOf (v : Value) : Option PlannedFailure :=
  match v with
  | .table _ => some ⟨(v.getD "method" .null).text, countOf (v.getD "nth" (.int 1)),
      (v.getD "message" (.str "injected failure")).text⟩
  | _ => none

def stopOf (v : Value) : Option PlannedStop :=
  match v with
  | .table _ => some ⟨(v.getD "method" .null).text, countOf (v.getD "nth" (.int 1))⟩
  | _ => none

structure Report where
  result : Outcome Value
  calls : Value
  world : World

structure Run where
  settings : Settings
  env : Env
  scene : Scene
  books : Books := {}

namespace Run

/-- Run a pass against the scene; `watch` says whether it heeds a planned stop. -/
def pass {α : Type} (r : Run) (watch : Bool) (x : Services (StateM Scene) → Pass (StateM Scene) α) :
    Outcome α × Run :=
  let ((o, books), scene) := ((x (Scene.services r.env watch)).run.run r.books).run r.scene
  (o, { r with books, scene })

def direct {α : Type} (r : Run) (x : Services (StateM Scene) → StateM Scene α) : α × Run :=
  let (a, scene) := (x (Scene.services r.env false)).run r.scene
  (a, { r with scene })

end Run

def text (step : Value) (key : String) : String := (step.getD key .null).text

def sortedView (xs : List Value) : Outcome Value := do pure (.list (← Sorting.sort xs))

def performWith (r : Run) (step : Value) (op : String) : Outcome (Outcome Value × Run) := do
  let s := r.settings
  let field := fun key => World.index step key
  match op with
  | "ensure_capacity" =>
    let pool ← field "pool"
    let r := { r with scene := { r.scene with
      failure := failureOf (step.getD "fail_call" .null), stop := stopOf (step.getD "cancel_on" .null),
      stopping := (step.getD "cancel" .null).truthy } }
    let (o, r) := r.pass true fun svc => ensureCapacity svc s pool
    pure (o.map resultView, r)
  | "event" =>
    let event ← field "event"
    let pool ← field "pool"
    let workload ← field "workload_id"
    let r := { r with scene := { r.scene with
      failure := failureOf (step.getD "fail_call" .null), stop := stopOf (step.getD "cancel_on" .null) } }
    let (o, r) := r.pass false fun svc => handleEvent svc s event pool workload (step.getD "user_id" .null)
    pure (o.map resultView, r)
  | "rebuild_reservations" =>
    let pool ← field "pool"
    let (o, r) := r.pass false fun svc => rebuildReservations svc s pool
    pure (o.bind sortedView, r)
  | "store_get" =>
    let pool ← field "pool"
    let _ ← pool.asKey
    pure (sortedView (r.books.reservationsOf pool), r)
  | "open_slot" =>
    let pool ← field "pool"
    let workload ← field "workload_id"
    let (o, r) := r.pass false fun svc => Events.openSlot svc s pool workload (step.getD "user_id" .null)
    pure (o.map fun g => .table g.toTable, r)
  | "classify" =>
    if ← step.includes (.str "hosts") then
      let hosts ← (← (← field "hosts").iterate).mapM SessionHost.ofValue
      let (c, r) := r.direct fun svc => classify svc.compute hosts
      pure (.ok (classificationView c), r)
    else
      let pool ← field "pool"
      let (o, r) := r.pass false fun svc => do
        let hosts ← Pass.call (svc.directory.listHosts pool)
        (classify svc.compute hosts : StateM Scene Classification)
      pure (o.map classificationView, r)
  | "create_session_host" =>
    let pool ← field "pool"
    let (o, r) := r.pass false fun svc => Lifecycle.create svc s pool
    pure (o.map fun h => .table h.toTable, r)
  | "purge_host" =>
    let host ← SessionHost.ofValue (← field "host")
    let (p, r) := r.direct fun svc => Lifecycle.purge svc host
    pure (.ok (.table p.toTable), r)
  | "build_node_spec" =>
    let node ← field "node_id"
    let pool ← field "pool"
    pure ((Lifecycle.nodeSpec s node pool).map fun sp => .table sp.toTable, r)
  | "hold_lock" =>
    let pool ← field "pool"
    let wait := match step.getD "timeout" (.float 0.001) with
      | .null => none
      | t => some t
    let (o, r) := r.pass false fun _ => Locks.acquire pool wait
    pure (o.map .bool, r)
  | "release_lock" =>
    let pool ← field "pool"
    let (o, r) := r.pass false fun _ => Locks.release pool
    pure (o.map fun _ => .null, r)
  | "is_locked" =>
    let pool ← field "pool"
    let (o, r) := r.pass false fun _ => Locks.isLocked pool
    pure (o.map .bool, r)
  | "world" =>
    let (w, problem) := r.scene.world.describe step
    let r := { r with scene := { r.scene with world := w } }
    pure ((match problem with | some e => .error e | none => .ok .null), r)
  | _ => fail .missingKey (Text.quote s!"unknown step {op}")

def perform (r : Run) (step : Value) : Outcome Value × Run :=
  match performWith r step (text step "op") with
  | .ok result => result
  | .error e => (.error e, r)

/-- The fault of removing, after a step, a planned failure and a planned stop set on the same
operation: the second removal finds the operation's hook already gone. -/
def hooksClash (sc : Scene) : Option Fault := do
  let f ← sc.failure
  let st ← sc.stop
  if f.method != st.method then none
  let owner := if ["list_all", "start", "create", "run_remote_script"].contains f.method
    then "FakeComputeProvider" else "FakeSessionDirectory"
  some (.make .missingAttribute s!"{Text.quote owner} object has no attribute {Text.quote f.method}")

/-- Perform one step and report it; the hooks and the call log are cleared afterwards. -/
def stepReport (r : Run) (step : Value) : Report × Run :=
  let (o, r) := perform r step
  let o := match hooksClash r.scene with
    | some e => .error e
    | none => o
  let w := r.scene.world
  let report : Report := ⟨o, callsView w.log, w⟩
  let scene := { r.scene with world := { w with log := {} }, failure := none, stop := none,
                              stopping := false, calls := [], ran := [] }
  (report, { r with scene })

def reports (r : Run) : List Value → List Report × World
  | [] => ([], r.scene.world)
  | step :: rest =>
    let (rep, r) := stepReport r step
    let (reps, final) := reports r rest
    (rep :: reps, final)

/-- Run a script: settings laid over the baseline, a world description, and the steps. The
result is each step's outcome, calls and world view. -/
def run (settings : Value) (env : Env) (world : Value) (steps : List Value) :
    Outcome (List (Outcome Value × Value × Value)) := do
  let s ← Settings.ofValue (Settings.overlay baseline settings)
  let (w, problem) := World.describe {} world
  if let some e := problem then throw e
  let (reps, final) := reports { settings := s, env, scene := { world := w } } steps
  pure (reps.map fun rep => (rep.result, rep.calls, worldView rep.world final))

end Simulation

end DesktopPool
