import DesktopPool.Proofs.Pass.Phases
import DesktopPool.World.Scene

/-! The in-memory world as the services of a pass. Its listings and lookups read the world and
change nothing; deleting a slot changes only the slots and the record of calls; a planned
failure replaces an operation without running it. So a survey leaves the nodes, the host
records and the planned failures as they were, a classification in the middle of a pass is the
classification the world gave when the pass began, and only drawing a node id counts as a draw.
No operation changes the domain, and a host a wait reports ready is named in it after its pool
and node. -/
namespace DesktopPool

open Pass Reconcile

theorem Value.same_str {x : Value} {s : String} (same : x.same (.str s) = true) : x = .str s := by
  cases x <;> simp_all [Value.same, Value.num?]

namespace World

/-- What a survey leaves as it is in the world: the nodes, the host records and the planned
failures. -/
def seen (w : World) : List ComputeNode × List SessionHost × Injection := (w.nodes, w.hosts, w.fail)

theorem lookup_still (id : Value) (full : Bool) (w : World) :
    ((lookup id full).run w).2 = w := by
  simp only [lookup, StateM.run_bind, StateM.run_get, guard]
  split <;> rfl

theorem lookup_seen (id : Value) (full : Bool) {w w' : World} (same : w.seen = w'.seen) :
    ((lookup id full).run w).1 = ((lookup id full).run w').1 := by
  simp only [seen, Prod.mk.injEq] at same
  obtain ⟨nodes, -, fail⟩ := same
  simp only [lookup, StateM.run_bind, StateM.run_get, guard, node?, nodes, fail]
  split <;> rfl

theorem listHosts_seen (pool : Value) {w w' : World} (same : w.seen = w'.seen) :
    ((listHosts pool).run w).1 = ((listHosts pool).run w').1 := by
  simp only [seen, Prod.mk.injEq] at same
  obtain ⟨-, hosts, fail⟩ := same
  simp only [listHosts, StateM.run_bind, StateM.run_get, hosts, fail]
  by_cases refused : w'.fail.listHosts = true
  · simp only [refused, if_true, StateM.run_pure]
  · simp only [refused, Bool.false_eq_true, if_false, StateM.run_pure]

theorem listHosts_still (pool : Value) (w : World) : ((listHosts pool).run w).2 = w := by
  simp only [listHosts, StateM.run_bind, StateM.run_get]
  by_cases refused : w.fail.listHosts = true <;>
    simp only [refused, if_true, Bool.false_eq_true, if_false] <;> rfl

theorem listAll_still (namePrefix : Value) (w : World) : ((listAll namePrefix).run w).2 = w := by
  simp only [listAll, StateM.run_bind, StateM.run_get]
  by_cases refused : w.fail.list = true
  · simp only [refused, if_true]
    rfl
  · by_cases whole : namePrefix.truthy = true <;>
      simp only [refused, whole, Bool.not_true, Bool.not_false, if_true, Bool.false_eq_true,
        if_false] <;> rfl

theorem listSlots_still (pool : Value) (w : World) : ((listSlots pool).run w).2 = w := by
  simp only [listSlots, StateM.run_bind, StateM.run_get]
  by_cases refused : w.fail.listSlots = true <;>
    simp only [refused, if_true, Bool.false_eq_true, if_false] <;> rfl

theorem assignmentsOf_still (name : Value) (w : World) : ((assignmentsOf name).run w).2 = w := by
  simp only [assignmentsOf, StateM.run_bind, StateM.run_get, guard]
  split <;> rfl

theorem hostName_text (w : World) (pool node : Value) :
    w.hostName pool node = pool.text ++ "/" ++ node.text ++ "." ++ w.domain.text := rfl

/-- `w'` differs from `w` at most in its nodes, host records, record of calls and number of
creations still refused: what every operation of a pass but a slot deletion may change. -/
def Touches (w w' : World) : Prop :=
  w' = { w with nodes := w'.nodes, hosts := w'.hosts, log := w'.log,
                fail := { w.fail with creates := w'.fail.creates } }

namespace Touches

theorem refl (w : World) : Touches w w := rfl

theorem trans {w w' w'' : World} (first : Touches w w') (second : Touches w' w'') :
    Touches w w'' := by
  unfold Touches at *
  rw [second, first]

theorem domain {w w' : World} (touches : Touches w w') : w'.domain = w.domain := by
  rw [touches]

end Touches

theorem putNode_touches (w : World) (n : ComputeNode) : Touches w (w.putNode n) := by
  unfold putNode
  split <;> rfl

theorem putHost_touches (w : World) (h : SessionHost) : Touches w (w.putHost h) := by
  unfold putHost
  split <;> rfl

theorem putNode_domain (w : World) (n : ComputeNode) : (w.putNode n).domain = w.domain :=
  (putNode_touches w n).domain

theorem create_touches (spec : NodeSpec) (w : World) : Touches w ((create spec).run w).2 := by
  simp only [create, StateM.run_bind, StateM.run_get, guard]
  split
  · rfl
  · split <;> rfl
  · split
    · rfl
    · rfl
    · simp only [StateM.run_bind, StateM.run_set, StateM.run_pure]
      unfold putNode
      split <;> rfl

theorem start_touches (id : Value) (w : World) : Touches w ((start id).run w).2 := by
  simp only [start, StateM.run_bind, StateM.run_get, guard]
  split
  · rfl
  · rfl
  · split
    · simp only [StateM.run_bind, StateM.run_set, StateM.run_pure]
      unfold putNode
      split <;> rfl
    · rfl

theorem delete_touches (id : Value) (w : World) : Touches w ((delete id).run w).2 := by
  simp only [delete, StateM.run_bind, StateM.run_get, guard]
  split <;> rfl

theorem deleteHost_touches (h : SessionHost) (w : World) : Touches w ((deleteHost h).run w).2 := by
  simp only [deleteHost, StateM.run_bind, StateM.run_get, guard]
  split <;> rfl

theorem waitReady_touches (pool id t : Value) (w : World) :
    Touches w ((waitReady pool id t).run w).2 := by
  simp only [waitReady, StateM.run_bind, StateM.run_get, guard]
  split
  · rfl
  · simp only [StateM.run_bind, StateM.run_set, StateM.run_pure]
    unfold putHost
    split <;> rfl
  · rfl

theorem runScript_touches (id script t poll : Value) (w : World) :
    Touches w ((runScript id script t poll).run w).2 := by
  simp only [runScript, StateM.run_bind, StateM.run_get]
  by_cases refused : w.fail.scripts = true <;>
    simp only [refused, if_true, Bool.false_eq_true, if_false] <;> rfl

theorem registrationToken_touches (pool : Value) (w : World) :
    Touches w ((registrationToken pool).run w).2 := by
  simp only [registrationToken, StateM.run_bind, StateM.run_get]
  by_cases refused : w.fail.token = true <;>
    simp only [refused, if_true, Bool.false_eq_true, if_false] <;> rfl

theorem deleteSlot_domain (name : Value) (w : World) :
    ((deleteSlot name).run w).2.domain = w.domain := by
  simp only [deleteSlot, StateM.run_bind, StateM.run_get, guard]
  split <;> rfl

/-- A host a wait reports ready carries the name the world gives the node's host in the pool:
a record found under that name keeps it, and a new one is made with it. -/
theorem waitReady_name (pool id t : Value) (w : World) {h : SessionHost}
    (ready : ((waitReady pool id t).run w).1 = .ok h) : h.name = .str (w.hostName pool id) := by
  simp only [waitReady, StateM.run_bind, StateM.run_get, guard] at ready
  split at ready
  · cases ready
  · simp only [StateM.run_bind, StateM.run_set, StateM.run_pure, Except.ok.injEq] at ready
    rw [← ready]
    rcases found : (host? _ (Value.str _)) with _ | x
    · rfl
    · simp only [Option.getD_some]
      unfold host? at found
      have matched := List.find?_some found
      exact Value.same_str matched
  · cases ready

theorem deleteSlot_seen (name : Value) (w : World) : ((deleteSlot name).run w).2.seen = w.seen := by
  simp only [deleteSlot, StateM.run_bind, StateM.run_get, guard]
  split
  · rfl
  · rfl
  · rfl

end World

namespace Scene

variable {α : Type}

theorem plain_run (op : StateM World α) (sc : Scene) :
    (plain op).run sc = ((op.run sc.world).1, { sc with world := (op.run sc.world).2 }) := rfl

/-- A hooked operation either fails as planned, leaving the world, or runs; it draws no number. -/
theorem hooked_cases (method : String) (kind : Kind) (op : StateM World (Outcome α)) (sc : Scene) :
    ((hooked method kind op).run sc).2.drawn = sc.drawn ∧
      ((∃ e, ((hooked method kind op).run sc).1 = .error e ∧
          ((hooked method kind op).run sc).2.world = sc.world) ∨
        (((hooked method kind op).run sc).1 = (op.run sc.world).1 ∧
          ((hooked method kind op).run sc).2.world = (op.run sc.world).2)) := by
  rcases planned : sc.failure with _ | f
  · simp only [hooked, StateM.run_bind, StateM.run_get, StateM.run_set, StateM.run_pure, planned,
      plain_run]
    simp
  · by_cases fires : (f.method == method && f.nth == (bump sc.calls method).2) = true
    · simp only [hooked, StateM.run_bind, StateM.run_get, StateM.run_set, StateM.run_pure, planned,
        fires, if_true]
      simp
    · simp only [hooked, StateM.run_bind, StateM.run_get, StateM.run_set, StateM.run_pure, planned,
        fires, plain_run, Bool.false_eq_true, if_false]
      simp

variable (env : Env) (watch : Bool)

theorem get_run (id : Value) (full : Bool) (sc : Scene) :
    ((services env watch).compute.get id full).run sc =
      (((World.lookup id full).run sc.world).1, sc) := by
  show (plain (World.lookup id full)).run sc = _
  rw [plain_run, World.lookup_still]

theorem listHosts_answer (pool : Value) (sc : Scene) {hosts : List SessionHost}
    (answered : (((services env watch).directory.listHosts pool).run sc).1 = .ok hosts) :
    ((World.listHosts pool).run sc.world).1 = .ok hosts := by
  obtain ⟨-, ⟨e, failed, -⟩ | ⟨ran, -⟩⟩ := hooked_cases "list_hosts" .directory (World.listHosts pool) sc
  · have planned : (Except.ok hosts : Outcome (List SessionHost)) = .error e :=
      answered.symm.trans failed
    cases planned
  · rw [← ran]
    exact answered

theorem nodeExists_still (h : SessionHost) (sc : Scene) :
    ((nodeExists (services env watch).compute h).run sc).2 = sc := by
  unfold nodeExists
  split
  · rfl
  · simp only [StateM.run_bind, get_run]
    split <;> rfl

theorem nodeExists_seen (h : SessionHost) {sc sc' : Scene} (same : sc.world.seen = sc'.world.seen) :
    ((nodeExists (services env watch).compute h).run sc).1 =
      ((nodeExists (services env watch).compute h).run sc').1 := by
  unfold nodeExists
  split
  · rfl
  · simp only [StateM.run_bind, get_run, World.lookup_seen _ _ same]
    split <;> rfl

theorem classify_still (hosts : List SessionHost) (sc : Scene) :
    ((classify (services env watch).compute hosts).run sc).2 = sc :=
  classify_op (F := Frame.fixing id) (fun i full b t => by rw [Frame.fixing]; simp [get_run]) hosts
    default sc

theorem classify_seen (hosts : List SessionHost) {sc sc' : Scene}
    (same : sc.world.seen = sc'.world.seen) :
    ((classify (services env watch).compute hosts).run sc).1 =
      ((classify (services env watch).compute hosts).run sc').1 := by
  induction hosts with
  | nil => rfl
  | cons h rest later =>
    unfold classify
    -- the bucket depends on the host and, for a sleeping host, on a lookup that reads the world
    by_cases unknown : h.status.isNull = true
    · simp only [unknown, if_true, StateM.run_bind, StateM.run_pure, later]
    by_cases available : h.isAvailable = true
    · simp only [unknown, available, Bool.false_eq_true, if_true, if_false, StateM.run_bind,
        StateM.run_pure, later]
    by_cases sleeping : h.isShutdown = true
    · simp only [unknown, available, sleeping, Bool.false_eq_true, if_true, if_false,
        StateM.run_bind, nodeExists_still, nodeExists_seen env watch h same]
      split <;> simp only [StateM.run_bind, StateM.run_pure, later]
    · simp only [unknown, available, sleeping, Bool.false_eq_true, if_false, StateM.run_bind,
        StateM.run_pure, later]

/-- What a survey leaves as it is in a scene: what it leaves in the world, and the numbers drawn. -/
def surveyed (sc : Scene) : (List ComputeNode × List SessionHost × Injection) × Nat :=
  (sc.world.seen, sc.drawn)

theorem plain_surveyed {op : StateM World α} (kept : ∀ w, (op.run w).2.seen = w.seen) :
    (Frame.fixing surveyed).Op (plain op) := by
  intro b sc
  show surveyed ((plain op).run sc).2 = surveyed sc
  rw [plain_run]
  simp only [surveyed, kept]

theorem hooked_surveyed {method : String} {kind : Kind} {op : StateM World (Outcome α)}
    (kept : ∀ w, (op.run w).2.seen = w.seen) : (Frame.fixing surveyed).Op (hooked method kind op) := by
  intro b sc
  show surveyed ((hooked method kind op).run sc).2 = surveyed sc
  obtain ⟨drawn, ⟨_, -, same⟩ | ⟨-, ran⟩⟩ := hooked_cases method kind op sc
  · simp only [surveyed, drawn, same]
  · simp only [surveyed, drawn, ran, kept]

/-- The in-memory world keeps through a survey its nodes, host records, planned failures and
drawn numbers. -/
theorem surveyWithin : SurveyWithin (Frame.fixing surveyed) (services env watch) where
  cancelled := fun _ _ => rfl
  listSlots := fun _ => hooked_surveyed fun w => by rw [World.listSlots_still]
  listAll := fun _ => hooked_surveyed fun w => by rw [World.listAll_still]
  assignments := fun _ => plain_surveyed fun w => by rw [World.assignmentsOf_still]
  deleteSlot := fun name => plain_surveyed (World.deleteSlot_seen name)
  listHosts := fun _ => hooked_surveyed fun w => by rw [World.listHosts_still]
  get := fun _ _ => plain_surveyed fun w => by rw [World.lookup_still]

theorem plain_drawn (op : StateM World α) : (Frame.fixing drawn).Op (plain op) :=
  fun _ _ => rfl

theorem hooked_drawn (method : String) (kind : Kind) (op : StateM World (Outcome α)) :
    (Frame.fixing drawn).Op (hooked method kind op) :=
  fun _ sc => (hooked_cases method kind op sc).1

/-- The scene counts the node ids drawn, and no other operation of the converging stages
draws one. -/
theorem drawCounter : DrawCounter drawn (services env watch) where
  cancelled := fun _ _ => rfl
  deleteHost := fun _ => plain_drawn _
  delete := fun _ => plain_drawn _
  start := fun _ => hooked_drawn _ _ _
  waitReady := fun _ _ _ => hooked_drawn _ _ _
  create := fun _ => hooked_drawn _ _ _
  registrationToken := fun _ => hooked_drawn _ _ _
  runScript := fun _ _ _ _ => hooked_drawn _ _ _
  listAll := fun _ => hooked_drawn _ _ _
  fresh := fun _ => rfl

def domain (sc : Scene) : Value := sc.world.domain

theorem plain_domain {op : StateM World α} (kept : ∀ w, (op.run w).2.domain = w.domain) :
    (Frame.fixing domain).Op (plain op) := by
  intro b sc
  show domain ((plain op).run sc).2 = domain sc
  rw [plain_run]
  exact kept sc.world

theorem hooked_domain {method : String} {kind : Kind} {op : StateM World (Outcome α)}
    (kept : ∀ w, (op.run w).2.domain = w.domain) : (Frame.fixing domain).Op (hooked method kind op) := by
  intro b sc
  show domain ((hooked method kind op).run sc).2 = domain sc
  obtain ⟨-, ⟨_, -, same⟩ | ⟨-, ran⟩⟩ := hooked_cases method kind op sc
  · simp only [domain, same]
  · simp only [domain, ran, kept]

theorem surveyWithin_domain : SurveyWithin (Frame.fixing domain) (services env watch) where
  cancelled := fun _ _ => rfl
  listSlots := fun _ => hooked_domain fun w => by rw [World.listSlots_still]
  listAll := fun _ => hooked_domain fun w => by rw [World.listAll_still]
  assignments := fun _ => plain_domain fun w => by rw [World.assignmentsOf_still]
  deleteSlot := fun name => plain_domain (World.deleteSlot_domain name)
  listHosts := fun _ => hooked_domain fun w => by rw [World.listHosts_still]
  get := fun _ _ => plain_domain fun w => by rw [World.lookup_still]

theorem convergeWithin_domain : ConvergeWithin (Frame.fixing domain) (services env watch) where
  cancelled := fun _ _ => rfl
  deleteHost := fun h => plain_domain fun w => (World.deleteHost_touches h w).domain
  delete := fun id => plain_domain fun w => (World.delete_touches id w).domain
  start := fun id => hooked_domain fun w => (World.start_touches id w).domain
  waitReady := fun pool id t => hooked_domain fun w => (World.waitReady_touches pool id t w).domain
  fresh := fun _ _ => rfl
  create := fun spec => hooked_domain fun w => (World.create_touches spec w).domain
  registrationToken := fun pool => hooked_domain fun w => (World.registrationToken_touches pool w).domain
  runScript := fun id script t poll =>
    hooked_domain fun w => (World.runScript_touches id script t poll w).domain
  listAll := fun _ => hooked_domain fun w => by rw [World.listAll_still]

theorem waitReady_name (pool id t : Value) (sc : Scene) {h : SessionHost}
    (ready : (((services env watch).directory.waitReady pool id t).run sc).1 = .ok h) :
    h.name = .str (sc.world.hostName pool id) := by
  obtain ⟨-, ⟨e, failed, -⟩ | ⟨ran, -⟩⟩ :=
    hooked_cases "wait_for_ready" .directory (World.waitReady pool id t) sc
  · have planned : (Except.ok h : Outcome SessionHost) = .error e := ready.symm.trans failed
    cases planned
  · exact World.waitReady_name pool id t sc.world (ran.symm.trans ready)

/-- The in-memory world asked to stop at the `n`-th check for cancellation, which counts itself
among the calls of the scene. -/
def stoppingAt (n : Nat) : Services (StateM Scene) :=
  { services default false with
    cancelled := modifyGet fun sc =>
      let (calls, k) := bump sc.calls "cancelled"
      (k == n, { sc with calls }) }

end Scene

/-! Scenes of pool `HP` that exercise every stage of a pass. -/

def hpRecord (l st : String) : SessionHost :=
  { name := .str ("HP/" ++ l ++ ".corp.example.local"), status := .str st }

/-- Pool `HP` with one host up, two asleep over stopped nodes, the second of which never comes
back, and one asleep over a node that is gone. -/
def wakingScene : Scene :=
  { world :=
    { nodes := [{ id := .str "shvm-up0001", state := .running },
                { id := .str "shvm-nap0001", state := .deallocated },
                { id := .str "shvm-nap0002", state := .deallocated }],
      hosts := [hpRecord "shvm-up0001" "Available", hpRecord "shvm-nap0001" "Shutdown",
                hpRecord "shvm-nap0002" "Shutdown", hpRecord "shvm-gone0001" "Shutdown"],
      fail := { neverReady := [.str "shvm-nap0002"] } } }

/-- Pool `HP` with two hosts asleep over stopped nodes, one asleep over a node that is gone, and
a running node tagged for the pool that backs no host. -/
def surplusScene : Scene :=
  { world :=
    { nodes := [{ id := .str "shvm-nap0001", state := .deallocated },
                { id := .str "shvm-nap0002", state := .deallocated },
                { id := .str "shvm-stray0001", state := .running,
                  tags := .table [(poolTag, .str "HP")] }],
      hosts := [hpRecord "shvm-nap0001" "Shutdown", hpRecord "shvm-nap0002" "Shutdown",
                hpRecord "shvm-gone0001" "Shutdown"] } }

def fixedSettings (n : Int) : Settings :=
  { scaling := { minHosts := .int n, maxHosts := .int n }, timeouts := { lock := .int 60 },
    setup := { agentUrl := .str "https://example.invalid/RDAgent.msi",
               bootloaderUrl := .str "https://example.invalid/RDAgentBootLoader.msi" } }

end DesktopPool
