import DesktopPool.Proofs.Pass.Exclusion

/-! The in-memory world when nothing fails and nothing drives a pass from outside: no planned
failure of a call, no planned stop, no request to stop, and no failure injected into the world.
Each operation of a pass then does what it names, and no more: a deletion removes what it
names, a start marks the node running, a wait makes the host's record `Available`, a creation
adds the node it specifies, and listings and lookups read the world as it is. A scene operation
acts as the world operation it runs, keeping the hooks and the numbers drawn, so a calm scene
stays calm and every checkpoint lets the pass through. -/
namespace DesktopPool

namespace World

variable {w : World}

theorem memberOf_str_nil (x : String) : (Value.str x).memberOf [] = .ok false := rfl

/-- The record a wait reports ready under `name`: the record of that name, or a new one, now
`Available`. -/
def readyRecord (w : World) (name : Value) : SessionHost :=
  { (w.host? name).getD { name } with status := .str "Available" }

theorem modifyLog_run (f : CallLog → CallLog) (w : World) :
    (modifyLog f).run w = ((), { w with log := f w.log }) := rfl

section Calm

variable (calm : w.fail = {})
include calm

theorem delete_calm (x : String) :
    (delete (.str x)).run w = (.ok (), { w.dropNode (.str x) with
      log := { w.log with deletedNodes := w.log.deletedNodes ++ [.str x] } }) := by
  simp only [delete, guard, StateM.run_bind, StateM.run_get, calm, memberOf_str_nil]
  rfl

theorem deleteHost_calm (h : SessionHost) {x : String} (named : h.name = .str x) :
    (deleteHost h).run w = (.ok (), { w.dropHost h.name with
      log := { w.log with deletedHosts := w.log.deletedHosts ++ [h.name] } }) := by
  simp only [deleteHost, guard, StateM.run_bind, StateM.run_get, calm, named, memberOf_str_nil]
  rfl

theorem start_calm (x : String) {n : ComputeNode} (found : w.node? (.str x) = some n) :
    (start (.str x)).run w = (.ok (), { w.putNode { n with state := .running } with
      log := { (w.putNode { n with state := .running }).log with
        started := (w.putNode { n with state := .running }).log.started ++ [.str x] } }) := by
  simp only [start, guard, StateM.run_bind, StateM.run_get, calm, memberOf_str_nil, found]
  rfl

theorem waitReady_calm (pool : Value) (x : String) (t : Value) {n : ComputeNode}
    (found : w.node? (.str x) = some n) (running : n.isRunning = true) :
    (waitReady pool (.str x) t).run w =
      (.ok (w.readyRecord (.str (w.hostName pool (.str x)))),
        World.putHost { w with log := { w.log with readyWaits := w.log.readyWaits ++ [(.str x, t)] } }
          (w.readyRecord (.str (w.hostName pool (.str x))))) := by
  unfold node? at found
  simp only [waitReady, guard, StateM.run_bind, modifyLog_run, StateM.run_get, node?, found]
  simp only [Value.asKey, Value.isHashable, if_true, Outcome.ok_bind, calm, memberOf_str_nil,
    running, Bool.not_false, Bool.and_true, Outcome.pure_ok]
  rfl

theorem create_calm (spec : NodeSpec) {kvs : List (String × Value)} {x : String}
    (tagged : spec.tags = .table kvs) (named : spec.id = .str x) :
    (create spec).run w =
      (.ok { id := spec.id, name := spec.name, state := .running, tags := .table kvs },
        { w.putNode { id := spec.id, name := spec.name, state := .running, tags := .table kvs } with
          log := { (w.putNode { id := spec.id, name := spec.name, state := .running,
                                tags := .table kvs }).log with
            created := (w.putNode { id := spec.id, name := spec.name, state := .running,
                                    tags := .table kvs }).log.created ++ [spec.id] } }) := by
  simp only [create, guard, StateM.run_bind, StateM.run_get, calm, Value.relate_int,
    Relation.holds_gt, Int.lt_irrefl, decide_false, tagged, named, Value.toTable, Value.asKey,
    Value.isHashable, if_true]
  rfl

theorem registrationToken_calm (pool : Value) :
    (registrationToken pool).run w = (.ok w.token, w) := by
  simp only [registrationToken, StateM.run_bind, StateM.run_get, calm]
  rfl

theorem runScript_calm (id script t poll : Value) :
    (runScript id script t poll).run w =
      (.ok (), { w with log := { w.log with scripts := w.log.scripts ++ [(id, script)] } }) := by
  have quiet : w.fail.scripts = false := by rw [calm]
  simp only [runScript, StateM.run_bind, StateM.run_get, quiet, Bool.false_eq_true, if_false]
  rfl

theorem listHosts_calm (pool : Value) :
    (listHosts pool).run w =
      (w.hosts.filterM fun h => h.name.startsWith (.str (pool.text ++ "/")), w) := by
  simp only [listHosts, StateM.run_bind, StateM.run_get, calm]
  rfl

theorem listAll_calm (namePrefix : Value) :
    (listAll namePrefix).run w =
      (if !namePrefix.truthy then .ok w.nodes
        else w.nodes.filterM fun n => n.id.startsWith namePrefix, w) := by
  have listed : w.fail.list = false := by rw [calm]
  simp only [listAll, StateM.run_bind, StateM.run_get, listed, Bool.false_eq_true, if_false]
  split <;> rfl

theorem lookup_calm (x : String) (full : Bool) :
    (lookup (.str x) full).run w = (.ok (w.node? (.str x)), w) := by
  simp only [lookup, guard, StateM.run_bind, StateM.run_get, calm, memberOf_str_nil]
  rfl

theorem listSlots_calm (pool : Value) (hashable : pool.isHashable = true) :
    (listSlots pool).run w = (.ok (w.slotsOf pool), w) := by
  simp only [listSlots, StateM.run_bind, StateM.run_get, calm, Value.asKey, hashable, if_true]
  rfl

theorem assignmentsOf_calm (name : Value) (hashable : name.isHashable = true) :
    (assignmentsOf name).run w =
      (((Keyed.find? Value.same w.assignments name).getD (.list [])).iterate, w) := by
  simp only [assignmentsOf, guard, StateM.run_bind, StateM.run_get, calm, Value.memberOf,
    Value.asKey, hashable, if_true]
  rfl

theorem deleteSlot_calm (name : Value) (hashable : name.isHashable = true) :
    (deleteSlot name).run w =
      (.ok (), { w with
        slots := w.slots.map fun (p, gs) => (p, gs.filter fun (g : AppGroup) => !g.name.same name),
        log := { w.log with deletedSlots := w.log.deletedSlots ++ [name] } }) := by
  simp only [deleteSlot, guard, StateM.run_bind, StateM.run_get, calm, Value.memberOf,
    Value.asKey, hashable, if_true]
  rfl

end Calm

end World

namespace Scene

/-- What drives a pass from outside: the planned failure, the planned stop, and whether the
pass was asked to stop. -/
def hooks (sc : Scene) : Option PlannedFailure × Option PlannedStop × Bool :=
  (sc.failure, sc.stop, sc.stopping)

/-- A scene where nothing fails and nothing asks a pass to stop from outside. -/
structure Calm (watch : Bool) (sc : Scene) : Prop where
  unhooked : sc.failure = none
  unstopped : sc.stop = none
  unasked : (watch && sc.stopping) = false
  unfailing : sc.world.fail = {}

theorem Calm.of_hooks {watch : Bool} {sc sc' : Scene} (calm : sc.Calm watch)
    (hooked : sc'.hooks = sc.hooks) (failing : sc'.world.fail = sc.world.fail) : sc'.Calm watch := by
  simp only [hooks, Prod.mk.injEq] at hooked
  obtain ⟨failure, stop, stopping⟩ := hooked
  exact ⟨failure.trans calm.unhooked, stop.trans calm.unstopped, stopping ▸ calm.unasked,
    failing.trans calm.unfailing⟩

variable {α : Type}

/-- In scene `sc`, the scene operation `x` answers and changes the world as the world operation
`op` does, and keeps the hooks and the numbers drawn. -/
structure Acts (op : StateM World α) (x : StateM Scene α) (sc : Scene) : Prop where
  answer : (x.run sc).1 = (op.run sc.world).1
  world : (x.run sc).2.world = (op.run sc.world).2
  hooks : (x.run sc).2.hooks = sc.hooks
  drawn : (x.run sc).2.drawn = sc.drawn

theorem hooked_acts (method : String) (kind : Kind) (op : StateM World (Outcome α)) {sc : Scene}
    (unhooked : sc.failure = none) (unstopped : sc.stop = none) :
    Acts op (hooked method kind op) sc := by
  obtain ⟨world, failure, stop, stopping, calls, ran, drawn⟩ := sc
  cases unhooked
  cases unstopped
  cases stopping <;> exact ⟨rfl, rfl, rfl, rfl⟩

theorem exec_call_acts {op : StateM World (Outcome α)} {x : StateM Scene (Outcome α)} {sc : Scene}
    (acts : Acts op x sc) (b : Books) :
    Pass.exec (Pass.call x) b sc = ⟨(op.run sc.world).1, b, (x.run sc).2⟩ := by
  rw [Pass.exec_call, acts.answer]

variable (env : Env) (watch : Bool)

/-- Every checkpoint lets a calm pass through, changing nothing. -/
theorem exec_checkpoint_calm {sc : Scene} (calm : sc.Calm watch) (pool : Value) (b : Books) :
    Pass.exec (Reconcile.checkpoint (services env watch) pool) b sc = ⟨.ok (), b, sc⟩ := by
  have unasked := calm.unasked
  unfold Reconcile.checkpoint
  simp only [Pass.exec_bind, Pass.exec_lift]
  show Pass.exec (if (watch && sc.stopping) = true then _ else pure ()) b sc = _
  rw [unasked]
  rfl

end Scene

end DesktopPool
