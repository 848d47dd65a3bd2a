import DesktopPool.Proofs.Concurrency.Erasures

/-! The fan-out phases of a pass run concurrently. With every service operation one atomic
step of the shared scene, the tasks of a fan-out are programs of steps that may interleave in
any order. The four fan-out phases of a pass (judging the slots of a rebuild, purging stale
hosts, purging surplus hosts, deleting orphan nodes) make only deletions and assignment
listings, which commute and answer from what no task changes. So every order in which their
tasks interleave and finish ends as the fan-out run one task after another: each item with the
same outcome, and the same scene but for the order of its deletion records. -/
namespace DesktopPool

/-- Services whose every operation is one atomic step of the shared state. -/
def Services.atomic {σ : Type} (svc : Services (StateM σ)) : Services (Steps σ) where
  compute := {
    create := fun spec => Steps.atomic (svc.compute.create spec)
    start := fun id => Steps.atomic (svc.compute.start id)
    stop := fun id => Steps.atomic (svc.compute.stop id)
    delete := fun id => Steps.atomic (svc.compute.delete id)
    get := fun id full => Steps.atomic (svc.compute.get id full)
    listAll := fun p => Steps.atomic (svc.compute.listAll p)
    runScript := fun id script t poll => Steps.atomic (svc.compute.runScript id script t poll) }
  directory := {
    listHosts := fun pool => Steps.atomic (svc.directory.listHosts pool)
    deleteHost := fun h => Steps.atomic (svc.directory.deleteHost h)
    waitReady := fun pool id t => Steps.atomic (svc.directory.waitReady pool id t)
    listSlots := fun pool => Steps.atomic (svc.directory.listSlots pool)
    createSlot := fun pool name w => Steps.atomic (svc.directory.createSlot pool name w)
    deleteSlot := fun name => Steps.atomic (svc.directory.deleteSlot name)
    publish := fun ws name => Steps.atomic (svc.directory.publish ws name)
    unpublish := fun ws name => Steps.atomic (svc.directory.unpublish ws name)
    assignments := fun name => Steps.atomic (svc.directory.assignments name)
    assign := fun name p kind => Steps.atomic (svc.directory.assign name p kind)
    registrationToken := fun pool => Steps.atomic (svc.directory.registrationToken pool) }
  cancelled := Steps.atomic svc.cancelled
  fresh := Steps.atomic svc.fresh
  env := svc.env

namespace Erasure

/-- An operation of the world that acts as `r` does and answers from the planned failures and
the assignments alone is, run as one atomic step of the scene, within the erasures at any key. -/
theorem atomic_within {α : Type} (r : Erasure) {op : StateM World α}
    (acts : ∀ sc, ((Scene.plain op).run sc).2 = r.effect sc)
    (answers : ∀ w w' : World, w.fail = w'.fail → w.assignments = w'.assignments →
      (op.run w).1 = (op.run w').1) (k : Injection × List (Value × Value)) :
    Steps.Within Erasing Scene.planned k (fun _ => True) (Steps.atomic (Scene.plain op)) := by
  refine Steps.Within.atomic ⟨r, funext acts⟩ (fun sc sc' key key' => ?_) fun _ _ => trivial
  obtain ⟨fail, granted⟩ := Prod.mk.inj (key.trans key'.symm)
  simp only [Scene.plain_run]
  exact answers _ _ fail granted

end Erasure

namespace Pass

variable {σ κ α β : Type} {E : (σ → σ) → Prop} {K : σ → κ} {k : κ}

/-- A step of a pass that, from any books, runs as a program within `E` at key `k` and ends
with the books it started with. -/
def Within (E : (σ → σ) → Prop) (K : σ → κ) (k : κ) (x : Pass (Steps σ) α) : Prop :=
  ∀ b, Steps.Within E K k (fun r => r.2 = b) (x.run.run b)

namespace Within

theorem pure (a : α) : Within E K k (Pure.pure a : Pass (Steps σ) α) := fun _ => .done rfl

theorem bind {x : Pass (Steps σ) α} {f : α → Pass (Steps σ) β} (first : Within E K k x)
    (next : ∀ a, Within E K k (f a)) : Within E K k (x >>= f) := by
  intro b
  simp only [ExceptT.run_bind, StateT.run_bind]
  refine (first b).bind ?_
  rintro ⟨o, b'⟩ kept
  obtain rfl : b' = b := kept
  cases o with
  | ok a => exact next a b'
  | error e => exact .done rfl

theorem check (o : Outcome α) : Within E K k (Pass.check o : Pass (Steps σ) α) := fun _ => .done rfl

theorem call {x : Steps σ (Outcome α)} (op : Steps.Within E K k (fun _ => True) x) :
    Within E K k (Pass.call x) := fun _ => op.bind fun _ _ => .done rfl

theorem lift {x : Steps σ α} (op : Steps.Within E K k (fun _ => True) x) :
    Within E K k (x : Pass (Steps σ) α) := by
  intro b
  simp only [liftM, monadLift, MonadLift.monadLift, ExceptT.lift, ExceptT.run, ExceptT.mk,
    StateT.run, Functor.map, StateT.map, StateT.lift]
  have lifted : Steps.Within E K k (fun r : α × Books => r.2 = b)
      (x >>= fun a => Pure.pure (a, b)) := op.bind fun _ _ => Steps.Within.pure rfl
  exact lifted.bind fun _ kept => Steps.Within.pure kept

end Within

def runFrom (x : Pass (Steps σ) α) (b : Books) (s : σ) : (Outcome α × Books) × σ :=
  (x.run.run b).run s

theorem runFrom_bind (x : Pass (Steps σ) α) (f : α → Pass (Steps σ) β) (b : Books) (s : σ) :
    runFrom (x >>= f) b s =
      match runFrom x b s with
      | ((.ok a, b'), s') => runFrom (f a) b' s'
      | ((.error e, b'), s') => ((.error e, b'), s') := by
  simp only [runFrom, ExceptT.run_bind, StateT.run_bind, Steps.run_bind]
  rcases ((x.run.run b).run s) with ⟨⟨_ | a, b'⟩, s'⟩ <;> rfl

theorem runFrom_attempt (x : Pass (Steps σ) α) (b : Books) (s : σ) :
    runFrom (attempt x) b s = ((.ok (runFrom x b s).1.1, (runFrom x b s).1.2), (runFrom x b s).2) := by
  simp only [runFrom, attempt, ExceptT.lift, ExceptT.run_mk, ← bind_pure_comp, StateT.run_bind,
    StateT.run_pure, Steps.run_bind]
  rfl

theorem runFrom_fanOut {ν : Type} {view : σ → ν} (commuting : Steps.Commuting E K view)
    {f : α → Pass (Steps σ) β} (within : ∀ x, Within E K k (f x)) (b : Books) (items : List α) :
    ∀ s, K s = k → runFrom (fanOut f items) b s =
      ((.ok (items.zip ((Steps.runAll (items.map fun x => (f x).run.run b) s).1.map Prod.fst)), b),
        (Steps.runAll (items.map fun x => (f x).run.run b) s).2) := by
  induction items with
  | nil => exact fun s _ => rfl
  | cons x xs later =>
    intro s key
    obtain ⟨kept, atKey⟩ := (within x b).run_holds commuting key
    change ((f x).runFrom b s).1.2 = b at kept
    change K ((f x).runFrom b s).2 = k at atKey
    rw [Pass.fanOut_cons, runFrom_bind, runFrom_attempt]
    simp only []
    rw [runFrom_bind, kept, later _ atKey]
    simp only [List.map_cons, Steps.runAll, List.zip_cons_cons]
    rfl

/-- The tasks of a fan-out over `items` run concurrently: task `i` is the step for item `i`,
from the books `b` the fan-out was given, and all of them share the state `s`. -/
def fanOutThreads (f : α → Pass (Steps σ) β) (items : List α) (b : Books) (s : σ) :
    Threads items.length σ (Outcome β × Books) :=
  ⟨fun i => (f items[i]).run.run b, s⟩

/-- A fan-out does not depend on the order in which its tasks interleave and finish, as `view`
sees the state: some schedule finishes every task, and under every schedule that does, each
task keeps the books, and the fan-out run one task after another gives each item, in the order
of the items, the outcome of its task and ends in a state that `view` sees as the end of the
schedule. -/
def OrderFree {ν : Type} (view : σ → ν) (f : α → Pass (Steps σ) β) (items : List α) (b : Books)
    (s : σ) : Prop :=
  (∃ schedule, ∃ results : Fin items.length → Outcome β × Books,
      ∀ i, ((fanOutThreads f items b s).execute schedule).tasks i = .done (results i)) ∧
    ∀ schedule (results : Fin items.length → Outcome β × Books),
      (∀ i, ((fanOutThreads f items b s).execute schedule).tasks i = .done (results i)) →
      (∀ i, (results i).2 = b) ∧
        ∃ s', runFrom (fanOut f items) b s =
            ((.ok (List.ofFn fun i => (items[i], (results i).1)), b), s') ∧
          view ((fanOutThreads f items b s).execute schedule).state = view s'

/-- A fan-out whose steps keep the books and stay within commuting effects at the key of the
state it starts from is free of order. -/
theorem orderFree_of_within {ν : Type} {view : σ → ν} (commuting : Steps.Commuting E K view)
    {f : α → Pass (Steps σ) β} (within : ∀ x, Within E K k (f x)) (items : List α) (b : Books)
    {s : σ} (key : K s = k) : OrderFree view f items b s := by
  refine ⟨Threads.exists_finishing _, fun schedule results finished => ?_⟩
  obtain ⟨ran, same, kept⟩ :=
    Threads.execute_finished commuting (fun i => within items[i] b) key schedule finished
  have tasks : (List.finRange items.length).map (fanOutThreads f items b s).tasks =
      items.map fun x => (f x).run.run b := by
    rw [← List.ofFn_eq_map]
    apply List.ext_getElem <;> simp [fanOutThreads]
  refine ⟨kept, _, ?_, same⟩
  rw [runFrom_fanOut commuting within b items s key]
  change (Steps.runAll _ s).1 = _ at ran
  rw [tasks] at ran same
  have zipped : items.zip (((List.finRange items.length).map results).map Prod.fst) =
      List.ofFn fun i => (items[i], (results i).1) := by
    apply List.ext_getElem <;> simp
  rw [ran, zipped, tasks]
  rfl

end Pass

section Phases

variable (env : Env) (watch : Bool) (k : Injection × List (Value × Value))

theorem delete_within (id : Value) : Steps.Within Erasing Scene.planned k (fun _ => True)
    ((Scene.services env watch).atomic.compute.delete id) :=
  (Erasure.node id).atomic_within (fun _ => rfl) (fun _ _ fail _ => World.delete_answer id fail) k

theorem deleteHost_within (h : SessionHost) : Steps.Within Erasing Scene.planned k (fun _ => True)
    ((Scene.services env watch).atomic.directory.deleteHost h) :=
  (Erasure.host h).atomic_within (fun _ => rfl) (fun _ _ fail _ => World.deleteHost_answer h fail) k

theorem deleteSlot_within (name : Value) : Steps.Within Erasing Scene.planned k (fun _ => True)
    ((Scene.services env watch).atomic.directory.deleteSlot name) :=
  (Erasure.slot name).atomic_within (fun _ => rfl)
    (fun _ _ fail _ => World.deleteSlot_answer name fail) k

theorem assignments_within (name : Value) : Steps.Within Erasing Scene.planned k (fun _ => True)
    ((Scene.services env watch).atomic.directory.assignments name) :=
  (Erasure.grants name).atomic_within (fun _ => rfl)
    (fun _ _ fail granted => World.assignmentsOf_answer name fail granted) k

theorem invalidate_within (slot : AppGroup) (v : Verdict) :
    Pass.Within Erasing Scene.planned k
      (Reservations.invalidate (Scene.services env watch).atomic slot v) :=
  (Pass.Within.lift (deleteSlot_within env watch k slot.name)).bind fun _ => Pass.Within.pure v

theorem validate_within (inventory : List ComputeNode) (slot : AppGroup) :
    Pass.Within Erasing Scene.planned k
      (Reservations.validate (Scene.services env watch).atomic inventory slot) := by
  unfold Reservations.validate
  split
  · exact Pass.Within.pure _
  refine (Pass.Within.check _).bind fun found => ?_
  rcases found with _ | node
  · exact invalidate_within env watch k slot _
  dsimp only
  split
  · exact invalidate_within env watch k slot _
  refine (Pass.Within.lift (assignments_within env watch k slot.name)).bind fun granted => ?_
  rcases granted with _ | granted
  · exact Pass.Within.pure _
  dsimp only
  split
  · exact invalidate_within env watch k slot _
  · exact Pass.Within.pure _

theorem purge_within (h : SessionHost) : Steps.Within Erasing Scene.planned k (fun _ => True)
    (Lifecycle.purge (Scene.services env watch).atomic h) := by
  unfold Lifecycle.purge
  refine (deleteHost_within env watch k h).bind fun dir _ => ?_
  simp only [Steps.pure_eq, Steps.done_bind]
  -- a name that does not parse gives no node to delete; one that does, exactly one
  rcases h.parts with _ | p <;> rcases dir with _ | ⟨⟩ <;> dsimp only
  · exact .done trivial
  · exact .done trivial
  all_goals
    refine (delete_within env watch k _).bind fun node _ => ?_
    rcases node with _ | ⟨⟩ <;> exact .done trivial

/-- The fan-out phases of a pass, over the in-memory world with every operation one atomic
step, do not depend on the order in which their tasks interleave and finish: judging the slots
of a rebuild, purging hosts (stale and surplus alike) and deleting orphan nodes each give every
item the outcome, and leave the scene, but for the order of its deletion records, that running
the tasks one after another gives. -/
theorem fanOut_phases_order_free (b : Books) (sc : Scene) (inventory : List ComputeNode)
    (slots : List AppGroup) (hosts : List SessionHost) (orphans : List Value) :
    Pass.OrderFree Scene.unordered
        (Reservations.validate (Scene.services env watch).atomic inventory) slots b sc ∧
      Pass.OrderFree Scene.unordered
        (fun h => ((Lifecycle.purge (Scene.services env watch).atomic h : Steps Scene PurgeResult) :
          Pass (Steps Scene) PurgeResult))
        hosts b sc ∧
      Pass.OrderFree Scene.unordered
        (fun id => Pass.call ((Scene.services env watch).atomic.compute.delete id)) orphans b sc :=
  ⟨Pass.orderFree_of_within erasing_commuting (validate_within env watch sc.planned inventory)
      slots b rfl,
    Pass.orderFree_of_within erasing_commuting
      (fun h => Pass.Within.lift (purge_within env watch sc.planned h)) hosts b rfl,
    Pass.orderFree_of_within erasing_commuting
      (fun id => Pass.Within.call (delete_within env watch sc.planned id)) orphans b rfl⟩

end Phases

end DesktopPool
