import DesktopPool.Proofs.Pass.Accounting
import DesktopPool.Proofs.Pass.Fatal
import DesktopPool.Proofs.Host.Names
import Mathlib.Data.List.Forall2

/-! What a pass deletes, read off the calls of its traced run. Every deletion is attributed to
the stage that made it: the purge of the hosts classified stale, the purge of the sleeping
hosts the resume loop never tried (when the settings delete a surplus), or the orphan sweep
(when the settings ask for one), which deletes only nodes its own listing returned, tagged for
the pool and backing no host the pass knows of. The resume loop starts the nodes of a prefix of
the sleeping hosts, in order; the creations draw every number the pass draws, and each node id
drawn is known to the sweep, through the host the creation made or the fault that stopped it.
The host made is known by the node id its name parses to, so in the in-memory world this needs
names that read back: a name prefix with no `.` and no `/`, a pool name that starts with a
character other than `/`, and a domain with no `/`. -/
namespace DesktopPool

namespace Call

def started? : Call → Option Value
  | .start node => some node
  | _ => none

def drawn? : Call → Option Nat
  | .draw n => some n
  | _ => none

/-- A call that deletes a host record or a node. -/
def deletes : Call → Bool
  | .deleteHost _ | .deleteNode _ => true
  | _ => false

/-- A call that creates, starts and deletes nothing and draws no number. -/
def quiet : Call → Bool
  | .create _ | .start _ | .deleteNode _ | .deleteHost _ | .draw _ => false
  | _ => true

theorem quiet_calm {c : Call} (still : c.quiet = true) :
    c.deletes = false ∧ c.started? = none ∧ c.drawn? = none ∧ c.touchesHosts = false := by
  cases c <;> simp_all [quiet, deletes, started?, drawn?, touchesHosts]

theorem quiet_keeps {c : Call} (still : c.quiet = true) (deletes : c.deletes = true) : False :=
  Bool.false_ne_true ((quiet_calm still).1.symm.trans deletes)

theorem drawn?_eq_some {c : Call} {k : Nat} : c.drawn? = some k ↔ c = .draw k := by
  cases c <;> simp [drawn?]

theorem started_quiet {calls : List Call} (still : ∀ c ∈ calls, c.quiet = true) :
    calls.filterMap started? = [] :=
  List.filterMap_eq_nil_iff.mpr fun c member => (quiet_calm (still c member)).2.1

end Call

namespace Reconcile

open Pass

theorem build_returns {τ : Type} {F : Frame τ} {ops : Services (StateM τ)}
    (within : ConvergeWithin F ops) (s : Settings) (pool : Value) (nodeId : String) (b : Books)
    (t : τ) (host : SessionHost)
    (returned : (exec (Lifecycle.build ops s pool nodeId) b t).outcome = .ok host) :
    ∃ b' t', F.rel (b, t) (b', t') ∧
      ((ops.directory.waitReady pool (.str nodeId) s.timeouts.createReady).run t').1 = .ok host := by
  have stepped : ∀ {α : Type} {x : Pass (StateM τ) α}, Keeps F x → ∀ step,
      Keeps F (Lifecycle.stepOf nodeId step x) := fun keeps step => stepOf_keeps keeps nodeId step
  unfold Lifecycle.build at returned
  obtain ⟨_, b1, t1, made, rest⟩ := exec_bind_eq_ok returned
  rw [rest] at returned
  obtain ⟨_, b2, t2, fetched, rest⟩ := exec_bind_eq_ok returned
  rw [rest] at returned
  obtain ⟨_, b3, t3, scripted, rest⟩ := exec_bind_eq_ok returned
  rw [rest] at returned
  obtain ⟨_, b4, t4, ran, rest⟩ := exec_bind_eq_ok returned
  rw [rest] at returned
  have upToWait : F.rel (b, t) (b4, t4) := by
    refine F.trans _ _ _ (Keeps.ran (stepped (Keeps.bind (Keeps.check _) fun spec =>
      Keeps.bind (Keeps.call (within.create spec)) fun _ => Keeps.pure _) _) made) ?_
    refine F.trans _ _ _ (Keeps.ran (stepped (Keeps.call (within.registrationToken pool)) _) fetched) ?_
    exact F.trans _ _ _ (Keeps.ran (stepped (Keeps.check _) _) scripted)
      (Keeps.ran (stepped (Keeps.call (within.runScript _ _ _ _)) _) ran)
  -- the wait's handler raises, so a wait that ends well is the directory's answer
  rw [Lifecycle.stepOf, exec_tryCatch, exec_call] at returned
  rcases answer : ((ops.directory.waitReady pool (.str nodeId) s.timeouts.createReady).run t4).1
    with e | ready
  · simp [answer] at returned
  · simp only [answer] at returned
    cases returned
    exact ⟨b4, t4, upToWait, answer⟩

/-- A call that purging one of `hosts` makes: deleting its record, or the node its name names. -/
def Purges (hosts : List SessionHost) (c : Call) : Prop :=
  ∃ h ∈ hosts, c = .deleteHost h ∨ ∃ p, h.parts = .ok p ∧ c = .deleteNode (.str p.node)

/-- A node the orphan sweep may delete: returned by a listing of the name prefix in `calls`,
tagged for the pool without regard to case, and whose id, lower-cased, is none of `known`. -/
def Orphan (s : Settings) (pool : Value) (known : List String) (calls : List Call) (id : Value) :
    Prop :=
  ∃ nodes, .listNodes s.template.namePrefix (.ok nodes) ∈ calls ∧ ∃ n ∈ nodes, n.id = id ∧
    ownedBy pool n = .ok true ∧ ∃ l, id.lower = .ok l ∧ l ∉ known

theorem Purges.calm {hosts : List SessionHost} {c : Call} (purges : Purges hosts c) :
    c.started? = none ∧ c.drawn? = none := by
  obtain ⟨h, -, rfl | ⟨p, -, rfl⟩⟩ := purges <;> exact ⟨rfl, rfl⟩

theorem Orphan.mono {s : Settings} {pool : Value} {known known' : List String}
    {calls calls' : List Call} {id : Value} (more : ∀ c ∈ calls, c ∈ calls')
    (fewer : ∀ x ∈ known', x ∈ known) (orphan : Orphan s pool known calls id) :
    Orphan s pool known' calls' id := by
  obtain ⟨nodes, listed, n, member, named, owned, l, lowered, unknown⟩ := orphan
  exact ⟨nodes, more _ listed, n, member, named, owned, l, lowered, fun known' => unknown (fewer l known')⟩

/-- The node ids a pass knows to back a host, lower-cased: those of the hosts it listed, and those
it drew in `calls` for the hosts it made. -/
def knownIds (s : Settings) (hosts : List SessionHost) (calls : List Call) : List String :=
  nodeIds hosts ++ (calls.filterMap Call.drawn?).map fun k => Unicode.lower (Lifecycle.nodeIdFor s k)

theorem mem_knownIds {s : Settings} {hosts : List SessionHost} {calls : List Call} {x : String}
    (member : x ∈ knownIds s hosts calls) :
    x ∈ nodeIds hosts ∨ ∃ k, .draw k ∈ calls ∧ Unicode.lower (Lifecycle.nodeIdFor s k) = x := by
  simp only [knownIds, List.mem_append, List.mem_map, List.mem_filterMap, Call.drawn?_eq_some] at member
  rcases member with listed | ⟨k, ⟨c, called, rfl⟩, named⟩
  · exact .inl listed
  · exact .inr ⟨k, called, named⟩

theorem knownIds_undrawn_left (s : Settings) (hosts : List SessionHost) {pre : List Call}
    (undrawn : ∀ c ∈ pre, c.drawn? = none) (calls : List Call) :
    knownIds s hosts (pre ++ calls) = knownIds s hosts calls := by
  simp [knownIds, List.filterMap_append, List.filterMap_eq_nil_iff.mpr undrawn]

theorem knownIds_undrawn_right (s : Settings) (hosts : List SessionHost) (calls : List Call)
    {post : List Call} (undrawn : ∀ c ∈ post, c.drawn? = none) :
    knownIds s hosts (calls ++ post) = knownIds s hosts calls := by
  simp [knownIds, List.filterMap_append, List.filterMap_eq_nil_iff.mpr undrawn]

def Wakes (h : SessionHost) (node : Value) : Prop := ∃ q, h.parts = .ok q ∧ node = .str q.node

/-- What the converging stages of a pass may call, given the hosts the pass listed and their
classification: they start the nodes of a prefix `tried` of the sleeping hosts, in order, and no
other; each deletion purges a stale host, or, when the settings delete a surplus, one of the
sleeping hosts never tried, or, when the settings sweep, deletes an orphan whose id, lower-cased,
is the node id of no host listed and of no node drawn. -/
def Attributed (s : Settings) (pool : Value) (hosts : List SessionHost) (cl : Classification)
    (calls : List Call) : Prop :=
  ∃ tried left, cl.resumable = tried ++ left ∧
    List.Forall₂ Wakes tried (calls.filterMap Call.started?) ∧
    ∀ c ∈ calls, c.deletes = true → Purges cl.stale c ∨
      (s.scaling.deleteSurplus.truthy = true ∧ Purges left c) ∨
      (s.sweepOrphans.truthy = true ∧ ∃ id, c = .deleteNode id ∧
        Orphan s pool (knownIds s hosts calls) calls id)

/-- What the stages after the resume loop may call: they start no node, and each deletion purges
one of the hosts `left` when the settings delete a surplus, or deletes an orphan as in
`Attributed`. -/
def Settled (s : Settings) (pool : Value) (hosts left : List SessionHost) (calls : List Call) :
    Prop :=
  ∀ c ∈ calls, c.started? = none ∧ (c.deletes = true →
    (s.scaling.deleteSurplus.truthy = true ∧ Purges left c) ∨
    (s.sweepOrphans.truthy = true ∧ ∃ id, c = .deleteNode id ∧
      Orphan s pool (knownIds s hosts calls) calls id))

section Attribution

variable {s : Settings} {pool : Value} {hosts left : List SessionHost} {cl : Classification}

theorem settled_unswept {c : Call} (calls : List Call)
    (one : (c.deletes = false ∧ c.started? = none) ∨
      (s.scaling.deleteSurplus.truthy = true ∧ Purges left c)) :
    c.started? = none ∧ (c.deletes = true →
      (s.scaling.deleteSurplus.truthy = true ∧ Purges left c) ∨
      (s.sweepOrphans.truthy = true ∧ ∃ id, c = .deleteNode id ∧
        Orphan s pool (knownIds s hosts calls) calls id)) := by
  rcases one with ⟨kept, still⟩ | ⟨deleting, purges⟩
  · exact ⟨still, fun deletes => (Bool.false_ne_true (kept.symm.trans deletes)).elim⟩
  · exact ⟨purges.calm.1, fun _ => .inl ⟨deleting, purges⟩⟩

theorem Settled.unswept {calls : List Call}
    (each : ∀ c ∈ calls, (c.deletes = false ∧ c.started? = none) ∨
      (s.scaling.deleteSurplus.truthy = true ∧ Purges left c)) :
    Settled s pool hosts left calls :=
  fun c member => settled_unswept calls (each c member)

/-- Calls before the sweep, then a sweep that knew the ids of the listed hosts and of the nodes
drawn before it, are settled. -/
theorem Settled.swept {pre swept : List Call} {known : List String}
    (each : ∀ c ∈ pre, (c.deletes = false ∧ c.started? = none) ∨
      (s.scaling.deleteSurplus.truthy = true ∧ Purges left c))
    (knew : ∀ x ∈ knownIds s hosts pre, x ∈ known)
    (sweeping : ∀ c ∈ swept, c.quiet = true ∨
      (s.sweepOrphans.truthy = true ∧ ∃ id, c = .deleteNode id ∧ Orphan s pool known swept id)) :
    Settled s pool hosts left (pre ++ swept) := by
  have undrawn : ∀ c ∈ swept, c.drawn? = none := by
    intro c member
    rcases sweeping c member with still | ⟨-, id, rfl, -⟩
    · exact (Call.quiet_calm still).2.2.1
    · rfl
  intro c member
  rcases List.mem_append.mp member with early | late
  · exact settled_unswept _ (each c early)
  · rcases sweeping c late with still | ⟨sweeps, id, rfl, orphan⟩
    · exact ⟨(Call.quiet_calm still).2.1,
        fun deletes => (Call.quiet_keeps still deletes).elim⟩
    · refine ⟨rfl, fun _ => .inr ⟨sweeps, id, rfl, ?_⟩⟩
      rw [knownIds_undrawn_right s hosts pre undrawn]
      exact orphan.mono (fun c member => List.mem_append_right pre member) knew

theorem Attributed.early {calls : List Call}
    (each : ∀ c ∈ calls, Purges cl.stale c ∨ c.quiet = true) :
    Attributed s pool hosts cl calls := by
  have unstarted : calls.filterMap Call.started? = [] := by
    refine List.filterMap_eq_nil_iff.mpr fun c member => ?_
    rcases each c member with purges | still
    · exact purges.calm.1
    · exact (Call.quiet_calm still).2.1
  refine ⟨[], cl.resumable, rfl, unstarted ▸ .nil, fun c member deletes => ?_⟩
  rcases each c member with purges | still
  · exact .inl purges
  · exact (Call.quiet_keeps still deletes).elim

/-- The converging stages' calls in order: the stale purge and a checkpoint, the resume loop
over a prefix `tried` of the sleeping hosts, and settled calls. -/
theorem Attributed.staged {pre resumed post : List Call} {tried : List SessionHost}
    (each : ∀ c ∈ pre, Purges cl.stale c ∨ c.quiet = true) (split : cl.resumable = tried ++ left)
    (starts : List.Forall₂ Wakes tried (resumed.filterMap Call.started?))
    (calm : ∀ c ∈ resumed, c.deletes = false ∧ c.drawn? = none)
    (settled : Settled s pool hosts left post) :
    Attributed s pool hosts cl (pre ++ resumed ++ post) := by
  have preStill : ∀ c ∈ pre, c.started? = none ∧ c.drawn? = none := by
    intro c member
    rcases each c member with purges | still
    · exact purges.calm
    · exact ⟨(Call.quiet_calm still).2.1, (Call.quiet_calm still).2.2.1⟩
  have undrawn : ∀ c ∈ pre ++ resumed, c.drawn? = none := by
    intro c member
    rcases List.mem_append.mp member with early | late
    · exact (preStill c early).2
    · exact (calm c late).2
  refine ⟨tried, left, split, ?_, fun c member deletes => ?_⟩
  · rw [List.filterMap_append, List.filterMap_append,
      List.filterMap_eq_nil_iff.mpr fun c member => (preStill c member).1,
      List.filterMap_eq_nil_iff.mpr fun c member => (settled c member).1, List.nil_append,
      List.append_nil]
    exact starts
  rcases List.mem_append.mp member with early | late
  · rcases List.mem_append.mp early with first | resuming
    · rcases each c first with purges | still
      · exact .inl purges
      · exact (Call.quiet_keeps still deletes).elim
    · exact (Bool.false_ne_true ((calm c resuming).1.symm.trans deletes)).elim
  · rcases (settled c late).2 deletes with surplus | ⟨sweeps, id, rfl, orphan⟩
    · exact .inr (.inl surplus)
    · refine .inr (.inr ⟨sweeps, id, rfl, ?_⟩)
      rw [knownIds_undrawn_left s hosts undrawn]
      exact orphan.mono (fun c member => List.mem_append_right _ member) fun x known => known

theorem Attributed.quiet_append {pre calls : List Call} (still : ∀ c ∈ pre, c.quiet = true)
    (attributed : Attributed s pool hosts cl calls) : Attributed s pool hosts cl (pre ++ calls) := by
  obtain ⟨tried, left, split, starts, each⟩ := attributed
  refine ⟨tried, left, split, ?_, fun c member deletes => ?_⟩
  · rw [List.filterMap_append, Call.started_quiet still, List.nil_append]
    exact starts
  rcases List.mem_append.mp member with early | late
  · exact (Call.quiet_keeps (still c early) deletes).elim
  · rcases each c late deletes with stale | surplus | ⟨sweeps, id, rfl, orphan⟩
    · exact .inl stale
    · exact .inr (.inl surplus)
    · refine .inr (.inr ⟨sweeps, id, rfl, ?_⟩)
      rw [knownIds_undrawn_left s hosts fun c member => (Call.quiet_calm (still c member)).2.2.1]
      exact orphan.mono (fun c member => List.mem_append_right _ member) fun x known => known

end Attribution

variable {σ β : Type} (svc : Services (StateM σ))

/-! Frames of the traced services: a frame that fixes part of the services' state is kept by
their traced operations too. -/

theorem record_fixing {α : Type} {μ : σ → β} {x : StateM σ α} {c : α → Call}
    (op : (Frame.fixing μ).Op x) : (Frame.fixing fun t : σ × List Call => μ t.1).Op (Trace.record x c) :=
  fun b t => op b t.1

theorem surveyWithin_fixing {μ : σ → β} (within : SurveyWithin (Frame.fixing μ) svc) :
    SurveyWithin (Frame.fixing fun t : σ × List Call => μ t.1) svc.traced where
  cancelled := record_fixing within.cancelled
  listSlots := fun pool => record_fixing (within.listSlots pool)
  listAll := fun p => record_fixing (within.listAll p)
  assignments := fun name => record_fixing (within.assignments name)
  deleteSlot := fun name => record_fixing (within.deleteSlot name)
  listHosts := fun pool => record_fixing (within.listHosts pool)
  get := fun id full => record_fixing (within.get id full)

theorem convergeWithin_fixing {μ : σ → β} (within : ConvergeWithin (Frame.fixing μ) svc) :
    ConvergeWithin (Frame.fixing fun t : σ × List Call => μ t.1) svc.traced where
  cancelled := record_fixing within.cancelled
  deleteHost := fun h => record_fixing (within.deleteHost h)
  delete := fun id => record_fixing (within.delete id)
  start := fun id => record_fixing (within.start id)
  waitReady := fun pool id t => record_fixing (within.waitReady pool id t)
  fresh := record_fixing within.fresh
  create := fun spec => record_fixing (within.create spec)
  registrationToken := fun pool => record_fixing (within.registrationToken pool)
  runScript := fun id script t poll => record_fixing (within.runScript id script t poll)
  listAll := fun p => record_fixing (within.listAll p)

theorem nodeExists_traced (h : SessionHost) (t : σ) (log : List Call) :
    ((nodeExists svc.traced.compute h).run (t, log)).1 = ((nodeExists svc.compute h).run t).1 ∧
      ((nodeExists svc.traced.compute h).run (t, log)).2.1 = ((nodeExists svc.compute h).run t).2 := by
  unfold nodeExists
  split
  · exact ⟨rfl, rfl⟩
  · simp only [StateM.run_bind, Services.traced, Trace.record_run]
    split <;> exact ⟨rfl, rfl⟩

theorem classify_traced (hosts : List SessionHost) (t : σ) (log : List Call) :
    ((classify svc.traced.compute hosts).run (t, log)).1 = ((classify svc.compute hosts).run t).1 ∧
      ((classify svc.traced.compute hosts).run (t, log)).2.1 =
        ((classify svc.compute hosts).run t).2 := by
  induction hosts generalizing t log with
  | nil => exact ⟨rfl, rfl⟩
  | cons h rest later =>
    unfold classify
    by_cases unknown : h.status.isNull = true
    · simp only [unknown, if_true, StateM.run_bind, StateM.run_pure, later, and_self]
    by_cases available : h.isAvailable = true
    · simp only [unknown, available, Bool.false_eq_true, if_true, if_false, StateM.run_bind,
        StateM.run_pure, later, and_self]
    by_cases sleeping : h.isShutdown = true
    · obtain ⟨answer, state⟩ := nodeExists_traced svc h t log
      simp only [unknown, available, sleeping, Bool.false_eq_true, if_true, if_false,
        StateM.run_bind, answer]
      split <;> simp only [StateM.run_bind, StateM.run_pure, (later _ _).1, (later _ _).2, state, and_self]
    · simp only [unknown, available, sleeping, Bool.false_eq_true, if_false, StateM.run_bind,
        StateM.run_pure, later, and_self]

theorem surveyWithin_quiet : SurveyWithin (callFrame fun c => c.quiet = true) svc.traced where
  cancelled := record_op fun _ => rfl
  listSlots := fun _ => record_op fun _ => rfl
  listAll := fun _ => record_op fun _ => rfl
  assignments := fun _ => record_op fun _ => rfl
  deleteSlot := fun _ => record_op fun _ => rfl
  listHosts := fun _ => record_op fun _ => rfl
  get := fun _ _ => record_op fun _ => rfl

theorem checkpoint_quiet (pool : Value) :
    Calls (fun c => c.quiet = true) (checkpoint svc.traced pool) :=
  checkpoint_keeps (surveyWithin_quiet svc).cancelled pool

/-! The purges. -/

theorem purge_calls {hosts : List SessionHost} {h : SessionHost} (member : h ∈ hosts) :
    (callFrame (Purges hosts)).Op (Lifecycle.purge svc.traced h) :=
  purge_op (record_op fun _ => ⟨h, member, .inl rfl⟩)
    fun p parsed => record_op fun _ => ⟨h, member, .inr ⟨p, parsed, rfl⟩⟩

theorem purgeAll_calls (hosts : List SessionHost) :
    Calls (Purges hosts) (purgeAll svc.traced hosts) := by
  unfold purgeAll
  exact Keeps.bind (Keeps.fanOut fun h member => Keeps.lift (purge_calls svc member))
    fun _ => Keeps.pure _

theorem disposeSurplus_calls (s : Settings) (surplus : List SessionHost) :
    Calls (fun c => s.scaling.deleteSurplus.truthy = true ∧ Purges surplus c)
      (disposeSurplus svc.traced s surplus) := by
  unfold disposeSurplus
  split
  · exact Keeps.pure _
  · split
    · next deleting =>
      exact Keeps.bind (Calls.mono (fun _ purged => ⟨deleting, purged⟩) (purgeAll_calls svc surplus))
        fun _ => Keeps.pure _
    · exact Keeps.pure _

/-! The orphan sweep. -/

theorem unknown_of_passed {known : List String} {n : ComputeNode}
    (passed : (do pure !(known.contains (← n.id.lower)) : Outcome Bool) = .ok true) :
    ∃ l, n.id.lower = .ok l ∧ l ∉ known := by
  obtain ⟨l, lowered, fresh⟩ := Outcome.bind_eq_ok.mp passed
  exact ⟨l, lowered, by simpa using fresh⟩

/-- The sweep lists the nodes under the name prefix and deletes only orphans of that listing. -/
theorem sweep_orphans (s : Settings) (pool : Value) (known : List String) (b : Books)
    (t : σ × List Call) :
    ∃ new, (exec (sweep svc.traced s pool known) b t).state.2 = t.2 ++ new ∧
      ∀ c ∈ new, c.quiet = true ∨ ∃ id, c = .deleteNode id ∧ Orphan s pool known new id := by
  obtain ⟨t, log⟩ := t
  unfold sweep
  rw [exec_bind]
  simp only [exec_lift, Services.traced, Trace.record_run]
  rcases listed : ((svc.compute.listAll s.template.namePrefix).run t).1 with e | nodes
  · -- a listing that fails ends the sweep
    refine ⟨[.listNodes s.template.namePrefix (.error e)], rfl, fun c member => .inl ?_⟩
    rw [List.mem_singleton.mp member]
    rfl
  dsimp only
  rw [exec_bind, exec_check]
  rcases ownership : nodes.filterM (ownedBy pool) with e | owned
  · refine ⟨[.listNodes s.template.namePrefix (.ok nodes)], rfl, fun c member => .inl ?_⟩
    rw [List.mem_singleton.mp member]
    rfl
  dsimp only
  rw [exec_bind, exec_check]
  generalize unknown : (List.filterM _ owned : Outcome (List ComputeNode)) = tested
  rcases tested with e | orphans
  · refine ⟨[.listNodes s.template.namePrefix (.ok nodes)], rfl, fun c member => .inl ?_⟩
    rw [List.mem_singleton.mp member]
    rfl
  dsimp only
  have deleting : Keeps (callFrame fun c => ∃ n ∈ orphans, c = .deleteNode n.id)
      (fanOut (fun id => call (Trace.record (svc.compute.delete id) fun _ => Call.deleteNode id))
        (orphans.map (·.id))) :=
    Keeps.fanOut fun id member => by
      obtain ⟨n, kept, rfl⟩ := List.mem_map.mp member
      exact Keeps.call (record_op fun _ => ⟨n, kept, rfl⟩)
  rw [exec_bind]
  obtain ⟨dels, grown, deleted⟩ :=
    deleting b (((svc.compute.listAll s.template.namePrefix).run t).2,
      log ++ [.listNodes s.template.namePrefix (.ok nodes)])
  have attributed : ∀ c ∈ Call.listNodes s.template.namePrefix (.ok nodes) :: dels,
      c.quiet = true ∨ ∃ id, c = .deleteNode id ∧
        Orphan s pool known (.listNodes s.template.namePrefix (.ok nodes) :: dels) id := by
    intro c member
    rcases List.mem_cons.mp member with first | later
    · exact .inl (by rw [first]; rfl)
    · obtain ⟨n, orphan, rfl⟩ := deleted c later
      obtain ⟨inOwned, passed⟩ := Outcome.filterM_ok unknown n orphan
      obtain ⟨listedNode, owner⟩ := Outcome.filterM_ok ownership n inOwned
      exact .inr ⟨n.id, rfl, nodes, List.mem_cons_self, n, listedNode, rfl, owner,
        unknown_of_passed passed⟩
  rcases fanned : exec (fanOut (fun id => call (Trace.record (svc.compute.delete id)
      fun _ => Call.deleteNode id)) (orphans.map (·.id))) b (((svc.compute.listAll s.template.namePrefix).run t).2,
      log ++ [.listNodes s.template.namePrefix (.ok nodes)]) with ⟨e | outs, b', t'⟩
  all_goals
    rw [fanned] at grown
    simp only at grown
    exact ⟨_, by simp [fanned, grown], attributed⟩

/-- The orphan sweep of a pass deletes only orphans, and only when the settings ask for it. -/
theorem sweepOrphans_orphans (s : Settings) (pool : Value) (known : List String) (b : Books)
    (t : σ × List Call) :
    ∃ new, (exec (sweepOrphans svc.traced s pool known) b t).state.2 = t.2 ++ new ∧
      ∀ c ∈ new, c.quiet = true ∨
        (s.sweepOrphans.truthy = true ∧ ∃ id, c = .deleteNode id ∧ Orphan s pool known new id) := by
  unfold sweepOrphans
  split
  · next sweeping =>
    obtain ⟨checks, grown, still⟩ := checkpoint_quiet svc pool b t
    rw [exec_bind]
    rcases checked : exec (checkpoint svc.traced pool) b t with ⟨_ | _, b', t'⟩
    · rw [checked] at grown
      exact ⟨checks, grown, fun c member => .inl (still c member)⟩
    rw [checked] at grown
    dsimp only
    obtain ⟨swept, grown', attributed⟩ := sweep_orphans svc s pool known b' t'
    refine ⟨checks ++ swept, by rw [grown', grown, List.append_assoc], fun c member => ?_⟩
    rcases List.mem_append.mp member with early | late
    · exact .inl (still c early)
    · rcases attributed c late with quiet | ⟨id, rfl, orphan⟩
      · exact .inl quiet
      · exact .inr ⟨sweeping, id, rfl,
          orphan.mono (fun c member => List.mem_append_right _ member) fun _ known => known⟩
  · exact ⟨[], by simp, by simp⟩

/-! The resume loop. -/

theorem nodeExists_parses {τ : Type} (compute : ComputeService (StateM τ)) {h : SessionHost} {t : τ}
    (found : ((nodeExists compute h).run t).1 = true) : ∃ q, h.parts = .ok q := by
  unfold nodeExists at found
  rcases parsed : h.parts with e | q
  · simp [parsed] at found
  · exact ⟨q, rfl⟩

theorem classify_resumable_parses {τ : Type} (compute : ComputeService (StateM τ))
    (hosts : List SessionHost) (t : τ) :
    ∀ h ∈ ((classify compute hosts).run t).1.resumable, ∃ q, h.parts = .ok q := by
  induction hosts generalizing t with
  | nil =>
    intro h member
    cases member
  | cons h rest later =>
    intro h' member
    unfold classify at member
    -- only a sleeping host whose node is found joins the resumable ones
    by_cases unknown : h.status.isNull = true
    · simp only [unknown, if_true, StateM.run_bind, StateM.run_pure] at member
      exact later _ h' member
    by_cases available : h.isAvailable = true
    · simp only [unknown, available, Bool.false_eq_true, if_true, if_false, StateM.run_bind,
        StateM.run_pure] at member
      exact later _ h' member
    by_cases sleeping : h.isShutdown = true
    · simp only [unknown, available, sleeping, Bool.false_eq_true, if_true, if_false,
        StateM.run_bind] at member
      split at member
      · next found =>
        simp only [StateM.run_bind, StateM.run_pure, List.mem_cons] at member
        rcases member with rfl | inRest
        · exact nodeExists_parses compute found
        · exact later _ h' inRest
      · simp only [StateM.run_bind, StateM.run_pure] at member
        exact later _ h' member
    · simp only [unknown, available, sleeping, Bool.false_eq_true, if_false, StateM.run_bind,
        StateM.run_pure] at member
      exact later _ h' member

theorem wake_starts (s : Settings) (pool : Value) {h : SessionHost} {q : HostName}
    (parsed : h.parts = .ok q) (b : Books) (t : σ) (log : List Call) :
    ∃ more, (exec (wake svc.traced s pool h) b (t, log)).state.2 =
      log ++ .start (.str q.node) :: more ∧ ∀ c ∈ more, c.quiet = true := by
  unfold wake
  rw [exec_bind, parsed, exec_check]
  dsimp only
  rw [exec_bind]
  simp only [exec_call, Services.traced, Trace.record_run]
  rcases started : ((svc.compute.start (.str q.node)).run t).1 with e | u
  · exact ⟨[], by simp, by simp⟩
  · exact ⟨[.waitReady pool (.str q.node)], by simp, by simp [Call.quiet]⟩

/-- The resume loop tries a prefix of its queue, starting the node of each host it tries, in
order; it deletes nothing and draws no number, and hands back the rest of the queue with the
known node ids as they were. -/
theorem resume_starts (s : Settings) (pool target : Value) (queue : List SessionHost)
    (parsed : ∀ h ∈ queue, ∃ q, h.parts = .ok q) (p : Progress) (b : Books) (t : σ)
    (log : List Call) :
    ∃ tried rest new, queue = tried ++ rest ∧
      (exec (resume svc.traced s pool target queue p) b (t, log)).state.2 = log ++ new ∧
      List.Forall₂ Wakes tried (new.filterMap Call.started?) ∧
      (∀ c ∈ new, c.deletes = false ∧ c.drawn? = none) ∧
      ∀ p' left, (exec (resume svc.traced s pool target queue p) b (t, log)).outcome =
        .ok (p', left) → left = rest ∧ p'.known = p.known := by
  induction queue generalizing p b t log with
  | nil =>
    refine ⟨[], [], [], rfl, by simp [resume], .nil, by simp, fun p' left ended => ?_⟩
    simp only [resume, exec_pure, Except.ok.injEq, Prod.mk.injEq] at ended
    obtain ⟨rfl, rfl⟩ := ended
    exact ⟨rfl, rfl⟩
  | cons h queue later =>
    obtain ⟨q, hq⟩ := parsed h List.mem_cons_self
    unfold resume
    rw [exec_bind]
    simp only [short, exec_check]
    rcases compared : (Value.int p.up.length).relate .lt target with e | go
    · exact ⟨[], h :: queue, [], rfl, by simp, .nil, by simp, by simp⟩
    cases go
    · exact ⟨[], h :: queue, [], rfl, by simp, .nil, by simp, by simp⟩
    simp only [Bool.not_true, Bool.false_eq_true, if_false]
    rw [exec_bind, exec_checkpoint_traced svc]
    by_cases cancelled : (svc.cancelled.run t).1 = true
    · simp only [cancelled, if_true]
      exact ⟨[], h :: queue, [.cancelCheck true], rfl, rfl, .nil, by simp [Call.deletes, Call.drawn?],
        by simp⟩
    simp only [cancelled, Bool.false_eq_true, if_false]
    rw [exec_bind, exec_attempt]
    obtain ⟨more, woke, quietMore⟩ :=
      wake_starts svc s pool hq b (svc.cancelled.run t).2 (log ++ [.cancelCheck false])
    rcases woken : exec (wake svc.traced s pool h) b
      ((svc.cancelled.run t).2, log ++ [.cancelCheck false]) with ⟨o, b', t', log'⟩
    rw [woken] at woke
    simp only at woke
    rw [woken]
    have onward : ∀ p'', p''.known = p.known →
        ∃ tried rest new, h :: queue = tried ++ rest ∧
          (exec (resume svc.traced s pool target queue p'') b' (t', log')).state.2 = log ++ new ∧
          List.Forall₂ Wakes tried (new.filterMap Call.started?) ∧
          (∀ c ∈ new, c.deletes = false ∧ c.drawn? = none) ∧
          ∀ p' left, (exec (resume svc.traced s pool target queue p'') b' (t', log')).outcome =
            .ok (p', left) → left = rest ∧ p'.known = p.known := by
      intro p'' same
      obtain ⟨tried, rest, new, split, grown, starts, calm, ended⟩ :=
        later (fun h' member => parsed h' (List.mem_cons_of_mem h member)) p'' b' t' log'
      refine ⟨h :: tried, rest, .cancelCheck false :: .start (.str q.node) :: (more ++ new),
        by rw [split]; rfl, by rw [grown, woke]; simp, ?_, ?_, ?_⟩
      · simp only [List.filterMap_cons, Call.started?, List.filterMap_append, Call.started_quiet quietMore,
          List.nil_append]
        exact .cons ⟨q, hq, rfl⟩ starts
      · intro c member
        simp only [List.mem_cons, List.mem_append] at member
        rcases member with rfl | rfl | early | late
        · exact ⟨rfl, rfl⟩
        · exact ⟨rfl, rfl⟩
        · exact ⟨(Call.quiet_calm (quietMore c early)).1, (Call.quiet_calm (quietMore c early)).2.2.1⟩
        · exact calm c late
      · intro p' left ended'
        obtain ⟨rested, knew⟩ := ended p' left ended'
        exact ⟨rested, knew.trans same⟩
    cases o with
    | ok ready => exact onward _ rfl
    | error e => exact onward _ rfl

/-! The creation stage. -/

theorem build_calls (s : Settings) (pool : Value) (nodeId : String) :
    Calls (fun c => c.deletes = false ∧ c.started? = none ∧ c.drawn? = none)
      (Lifecycle.build svc.traced s pool nodeId) :=
  build_keeps (fun _ => record_op fun _ => ⟨rfl, rfl, rfl⟩)
    (fun _ => record_op fun _ => ⟨rfl, rfl, rfl⟩) (fun _ _ _ _ => record_op fun _ => ⟨rfl, rfl, rfl⟩)
    (fun _ _ _ => record_op fun _ => ⟨rfl, rfl, rfl⟩) s pool nodeId

theorem exec_create_traced (s : Settings) (pool : Value) (b : Books) (t : σ) (log : List Call) :
    exec (Lifecycle.create svc.traced s pool) b (t, log) =
      exec (Lifecycle.build svc.traced s pool (Lifecycle.nodeIdFor s (svc.fresh.run t).1)) b
        ((svc.fresh.run t).2, log ++ [.draw (svc.fresh.run t).1]) := by
  unfold Lifecycle.create
  rw [exec_bind]
  rfl

/-- The services name the host they make for a drawn node after that node, in every state where
`μ` is `m₀`: the name of the host the directory hands back once it is ready parses to the node
id. -/
def NamesDrawn (μ : σ → β) (m₀ : β) (s : Settings) (pool : Value) : Prop :=
  ∀ k t h, μ t = m₀ →
    ((svc.directory.waitReady pool (.str (Lifecycle.nodeIdFor s k)) s.timeouts.createReady).run t).1 =
      .ok h → ∃ q, h.parts = .ok q ∧ q.node = Lifecycle.nodeIdFor s k

theorem nodeIds_single {h : SessionHost} {q : HostName} (parsed : h.parts = .ok q) :
    nodeIds [h] = [Unicode.lower q.node] := by
  simp [nodeIds, parsed]

/-- The creation stage deletes nothing and starts nothing. One that ends well keeps the known
node ids and adds the id of every node it drew, lower-cased: from the host made for it, or from
the creation fault that names it. -/
theorem createHosts_knows {μ : σ → β} {m₀ : β} (within : ConvergeWithin (Frame.fixing μ) svc)
    (s : Settings) (pool : Value) (named : NamesDrawn svc μ m₀ s pool) (count : Nat) (p : Progress)
    (b : Books) (t : σ) (log : List Call) (start : μ t = m₀) :
    ∃ new, (exec (createHosts svc.traced s pool count p) b (t, log)).state.2 = log ++ new ∧
      (∀ c ∈ new, c.deletes = false ∧ c.started? = none) ∧
      ∀ p', (exec (createHosts svc.traced s pool count p) b (t, log)).outcome = .ok p' →
        (∀ x ∈ p.known, x ∈ p'.known) ∧
        ∀ k, .draw k ∈ new → Unicode.lower (Lifecycle.nodeIdFor s k) ∈ p'.known := by
  have traced := convergeWithin_fixing svc within
  induction count generalizing p b t log with
  | zero =>
    refine ⟨[], by simp [createHosts], by simp, fun p' ended => ?_⟩
    simp only [createHosts, exec_pure, Except.ok.injEq] at ended
    subst ended
    simp
  | succ count later =>
    unfold createHosts
    rw [exec_bind, exec_checkpoint_traced svc]
    by_cases cancelled : (svc.cancelled.run t).1 = true
    · simp only [cancelled, if_true]
      exact ⟨[.cancelCheck true], rfl, by simp [Call.deletes, Call.started?], by simp⟩
    simp only [cancelled, Bool.false_eq_true, if_false]
    rw [exec_bind, exec_attempt, exec_create_traced svc]
    generalize drew : svc.fresh.run (svc.cancelled.run t).2 = d
    obtain ⟨k, t1⟩ := d
    have atDraw : μ t1 = m₀ := by
      have kept := (within.fresh b (svc.cancelled.run t).2).trans (within.cancelled b t)
      rw [drew] at kept
      exact kept.trans start
    obtain ⟨made, grown, calm⟩ :=
      build_calls svc s pool (Lifecycle.nodeIdFor s k) b (t1, log ++ [.cancelCheck false] ++ [.draw k])
    rcases built : exec (Lifecycle.build svc.traced s pool (Lifecycle.nodeIdFor s k)) b
      (t1, log ++ [.cancelCheck false] ++ [.draw k]) with ⟨o, b', t', log'⟩
    rw [built] at grown
    simp only at grown
    rw [built]
    have atEnd : μ t' = m₀ := by
      have kept := Keeps.ran (build_keeps traced.create traced.registrationToken traced.runScript
        traced.waitReady s pool (Lifecycle.nodeIdFor s k)) built
      exact kept.trans atDraw
    have onward : ∀ p'', (∀ x ∈ p.known, x ∈ p''.known) →
        Unicode.lower (Lifecycle.nodeIdFor s k) ∈ p''.known →
        ∃ new, (exec (createHosts svc.traced s pool count p'') b' (t', log')).state.2 = log ++ new ∧
          (∀ c ∈ new, c.deletes = false ∧ c.started? = none) ∧
          ∀ p', (exec (createHosts svc.traced s pool count p'') b' (t', log')).outcome = .ok p' →
            (∀ x ∈ p.known, x ∈ p'.known) ∧
            ∀ j, .draw j ∈ new → Unicode.lower (Lifecycle.nodeIdFor s j) ∈ p'.known := by
      intro p'' kept drawnKnown
      obtain ⟨new, grown', calm', knows⟩ := later p'' b' t' log' atEnd
      refine ⟨.cancelCheck false :: .draw k :: (made ++ new), by rw [grown', grown]; simp, ?_, ?_⟩
      · intro c member
        simp only [List.mem_cons, List.mem_append] at member
        rcases member with rfl | rfl | early | late
        · exact ⟨rfl, rfl⟩
        · exact ⟨rfl, rfl⟩
        · exact ⟨(calm c early).1, (calm c early).2.1⟩
        · exact calm' c late
      · intro p' ended
        obtain ⟨keptAll, drawsKnown⟩ := knows p' ended
        refine ⟨fun x member => keptAll x (kept x member), fun j drawn => ?_⟩
        simp only [List.mem_cons, List.mem_append, Call.draw.injEq, reduceCtorEq, false_or] at drawn
        rcases drawn with rfl | early | late
        · exact keptAll _ drawnKnown
        · exact absurd (calm _ early).2.2 (by simp [Call.drawn?])
        · exact drawsKnown j late
    cases o with
    | ok host =>
      obtain ⟨_, t'', framed, answer⟩ := build_returns traced s pool _ b _ host (by rw [built])
      obtain ⟨q, parsed, same⟩ := named k t''.1 host (framed.trans atDraw) answer
      dsimp only
      refine onward _ (fun x member => List.mem_append_left _ member) ?_
      simp [nodeIds_single parsed, same]
    | error e =>
      obtain ⟨step, kind⟩ := build_raises s pool _ b _ e (by rw [built])
      dsimp only
      rw [kind]
      exact onward _ (fun x member => List.mem_append_left _ member) (by simp)

/-! The converging stages. -/

/-- The converging stages of a pass, started where `μ` is `m₀`, make only attributed calls,
whichever way they end. -/
theorem converge_attributed {μ : σ → β} {m₀ : β} (within : ConvergeWithin (Frame.fixing μ) svc)
    (s : Settings) (pool : Value) (named : NamesDrawn svc μ m₀ s pool) (v : Survey)
    (parsed : ∀ h ∈ v.classes.resumable, ∃ q, h.parts = .ok q) (b : Books) (t : σ)
    (log : List Call) (start : μ t = m₀) :
    ∃ new, (exec (converge svc.traced s pool v) b (t, log)).state.2 = log ++ new ∧
      Attributed s pool v.hosts v.classes new := by
  have traced := convergeWithin_fixing svc within
  unfold converge
  obtain ⟨purged, grown, stale⟩ := purgeAll_calls svc v.classes.stale b (t, log)
  have keptPurge := purgeAll_keeps traced.deleteHost traced.delete v.classes.stale b (t, log)
  rw [exec_bind]
  rcases purging : exec (purgeAll svc.traced v.classes.stale) b (t, log) with
    ⟨_ | results, b1, t1, log1⟩
  · rw [purging] at grown
    exact ⟨purged, grown, Attributed.early fun c member => .inl (stale c member)⟩
  rw [purging] at grown keptPurge
  simp only at grown keptPurge
  dsimp only
  rw [exec_bind, exec_checkpoint_traced svc]
  by_cases cancelled : (svc.cancelled.run t1).1 = true
  · simp only [cancelled, if_true]
    refine ⟨purged ++ [.cancelCheck true], by rw [grown, List.append_assoc],
      Attributed.early fun c member => ?_⟩
    rcases List.mem_append.mp member with early | last
    · exact .inl (stale c early)
    · rw [List.mem_singleton.mp last]
      exact .inr rfl
  simp only [cancelled, Bool.false_eq_true, if_false]
  have preEach : ∀ c ∈ purged ++ [.cancelCheck false], Purges v.classes.stale c ∨ c.quiet = true := by
    intro c member
    rcases List.mem_append.mp member with early | last
    · exact .inl (stale c early)
    · rw [List.mem_singleton.mp last]
      exact .inr rfl
  rw [exec_bind]
  obtain ⟨tried, rest, resumed, split, grown2, starts, calm, ended⟩ :=
    resume_starts svc s pool v.plan.target v.classes.resumable parsed
      { up := v.classes.up, known := nodeIds v.hosts } b1 (svc.cancelled.run t1).2
      (log1 ++ [.cancelCheck false])
  have keptResume := resume_keeps traced.cancelled traced.start traced.waitReady s pool v.plan.target
    v.classes.resumable { up := v.classes.up, known := nodeIds v.hosts } b1
    ((svc.cancelled.run t1).2, log1 ++ [.cancelCheck false])
  -- whatever follows the loop is settled, so the stages' calls are attributed
  have finish : ∀ post, Settled s pool v.hosts rest post →
      Attributed s pool v.hosts v.classes (purged ++ [.cancelCheck false] ++ resumed ++ post) :=
    fun post settled => Attributed.staged preEach split starts calm settled
  rcases resuming : exec (resume svc.traced s pool v.plan.target v.classes.resumable
      { up := v.classes.up, known := nodeIds v.hosts }) b1
      ((svc.cancelled.run t1).2, log1 ++ [.cancelCheck false]) with
    ⟨_ | ⟨p, surplus⟩, b2, t2, log2⟩
  · rw [resuming] at grown2 ⊢
    refine ⟨purged ++ [.cancelCheck false] ++ resumed ++ [], ?_, finish [] fun _ none => nomatch none⟩
    simp only at grown2 ⊢
    simp [grown2, grown]
  obtain ⟨rfl, knew⟩ := ended p surplus (by rw [resuming])
  rw [resuming] at grown2 keptResume
  simp only at grown2 keptResume
  rw [resuming]
  dsimp only
  have atResume : μ t2 = m₀ :=
    keptResume.trans ((within.cancelled b1 t1).trans (keptPurge.trans start))
  have quietSettles : ∀ c : Call, c.quiet = true → (c.deletes = false ∧ c.started? = none) ∨
      (s.scaling.deleteSurplus.truthy = true ∧ Purges surplus c) :=
    fun c still => .inl ⟨(Call.quiet_calm still).1, (Call.quiet_calm still).2.1⟩
  rw [exec_bind, exec_checkpoint_traced svc]
  by_cases cancelled2 : (svc.cancelled.run t2).1 = true
  · simp only [cancelled2, if_true]
    refine ⟨purged ++ [.cancelCheck false] ++ resumed ++ [.cancelCheck true], by simp [grown2, grown],
      finish _ (Settled.unswept fun c member => ?_)⟩
    rw [List.mem_singleton.mp member]
    exact quietSettles (.cancelCheck true) rfl
  simp only [cancelled2, Bool.false_eq_true, if_false]
  rw [exec_bind, exec_check]
  rcases counted : attemptsFor v.plan.target p.up.length with e | count
  · refine ⟨purged ++ [.cancelCheck false] ++ resumed ++ [.cancelCheck false], by simp [grown2, grown],
      finish _ (Settled.unswept fun c member => ?_)⟩
    rw [List.mem_singleton.mp member]
    exact quietSettles (.cancelCheck false) rfl
  dsimp only
  rw [exec_bind]
  obtain ⟨created, grown3, calm3, knows⟩ := createHosts_knows svc within s pool named count p b2
    (svc.cancelled.run t2).2 (log2 ++ [.cancelCheck false]) ((within.cancelled b2 t2).trans atResume)
  have createdSettles : ∀ c ∈ .cancelCheck false :: created, (c.deletes = false ∧ c.started? = none) ∨
      (s.scaling.deleteSurplus.truthy = true ∧ Purges surplus c) := by
    intro c member
    rcases List.mem_cons.mp member with rfl | creating
    · exact quietSettles (.cancelCheck false) rfl
    · exact .inl (calm3 c creating)
  rcases creating : exec (createHosts svc.traced s pool count p) b2
      ((svc.cancelled.run t2).2, log2 ++ [.cancelCheck false]) with ⟨_ | p', b3, t3, log3⟩
  · rw [creating] at grown3 ⊢
    simp only at grown3 ⊢
    exact ⟨purged ++ [.cancelCheck false] ++ resumed ++ (.cancelCheck false :: created),
      by simp [grown3, grown2, grown], finish _ (Settled.unswept createdSettles)⟩
  obtain ⟨keptKnown, drawsKnown⟩ := knows p' (by rw [creating])
  rw [creating] at grown3 ⊢
  simp only at grown3 ⊢
  rw [exec_bind, exec_checkpoint_traced svc]
  by_cases cancelled3 : (svc.cancelled.run t3).1 = true
  · simp only [cancelled3, if_true]
    refine ⟨purged ++ [.cancelCheck false] ++ resumed ++
      (.cancelCheck false :: created ++ [.cancelCheck true]), by simp [grown3, grown2, grown],
      finish _ (Settled.unswept fun c member => ?_)⟩
    rcases List.mem_append.mp member with early | last
    · exact createdSettles c early
    · rw [List.mem_singleton.mp last]
      exact quietSettles (.cancelCheck true) rfl
  simp only [cancelled3, Bool.false_eq_true, if_false]
  rw [exec_bind]
  obtain ⟨disposed, grown4, surplusCalls⟩ :=
    disposeSurplus_calls svc s surplus b3 ((svc.cancelled.run t3).2, log3 ++ [.cancelCheck false])
  have beforeSweep : ∀ c ∈ .cancelCheck false :: created ++ [.cancelCheck false] ++ disposed,
      (c.deletes = false ∧ c.started? = none) ∨
        (s.scaling.deleteSurplus.truthy = true ∧ Purges surplus c) := by
    intro c member
    rcases List.mem_append.mp member with early | disposing
    · rcases List.mem_append.mp early with creating | last
      · exact createdSettles c creating
      · rw [List.mem_singleton.mp last]
        exact quietSettles (.cancelCheck false) rfl
    · exact .inr (surplusCalls c disposing)
  rcases disposing : exec (disposeSurplus svc.traced s surplus) b3
      ((svc.cancelled.run t3).2, log3 ++ [.cancelCheck false]) with ⟨_ | disposal, b4, t4, log4⟩
  · rw [disposing] at grown4 ⊢
    simp only at grown4 ⊢
    exact ⟨purged ++ [.cancelCheck false] ++ resumed ++
      (.cancelCheck false :: created ++ [.cancelCheck false] ++ disposed),
      by simp [grown4, grown3, grown2, grown], finish _ (Settled.unswept beforeSweep)⟩
  rw [disposing] at grown4 ⊢
  simp only at grown4 ⊢
  -- the sweep knew the ids of the listed hosts' nodes and of the nodes drawn
  have knewAll : ∀ x ∈ knownIds s v.hosts (.cancelCheck false :: created ++ [.cancelCheck false] ++
      disposed), x ∈ p'.known := by
    intro x member
    rcases mem_knownIds member with listed | ⟨k, drawn, rfl⟩
    · exact keptKnown x (by rw [knew]; exact listed)
    · simp only [List.cons_append, List.mem_cons, List.mem_append, reduceCtorEq, false_or,
        List.mem_nil_iff, or_false] at drawn
      rcases drawn with creating | disposing
      · exact drawsKnown k creating
      · have undrawn := (surplusCalls _ disposing).2.calm.2
        simp [Call.drawn?] at undrawn
  rw [exec_bind]
  obtain ⟨swept, grown5, sweepCalls⟩ := sweepOrphans_orphans svc s pool p'.known b4 (t4, log4)
  have settled := Settled.swept beforeSweep knewAll sweepCalls
  have logged : log4 ++ swept = log ++ (purged ++ [.cancelCheck false] ++ resumed ++
      ((.cancelCheck false :: created ++ [.cancelCheck false] ++ disposed) ++ swept)) := by
    simp [grown4, grown3, grown2, grown]
  rcases sweeping : exec (sweepOrphans svc.traced s pool p'.known) b4 (t4, log4) with
    ⟨_ | orphans, b5, t5, log5⟩
  · rw [sweeping] at grown5
    simp only at grown5 ⊢
    exact ⟨_, grown5.trans logged, finish _ settled⟩
  · rw [sweeping] at grown5
    simp only [exec_pure] at grown5 ⊢
    exact ⟨_, grown5.trans logged, finish _ settled⟩

/-! The in-memory world. -/

/-- In the in-memory world the host made for a drawn node is named after it, when the name
prefix holds no `.` and no `/`, the pool name starts with a character other than `/`, and the
domain holds no `/`. -/
theorem scene_namesDrawn (env : Env) (watch : Bool) (s : Settings) (pool : Value) (sc : Scene)
    (noDot : '.' ∉ s.template.namePrefix.text.toList)
    (noSlash : '/' ∉ s.template.namePrefix.text.toList)
    (poolStart : ∃ c cs, pool.text.toList = c :: cs ∧ c ≠ '/')
    (domainPlain : '/' ∉ sc.world.domain.text.toList) :
    NamesDrawn (Scene.services env watch) Scene.domain sc.domain s pool := by
  intro k t h sameDomain ready
  have named := Scene.waitReady_name env watch pool _ _ t ready
  have domain : t.world.domain = sc.world.domain := sameDomain
  obtain ⟨filled, dotless, slashless⟩ := Lifecycle.nodeIdFor_plain s k noDot noSlash
  have parts : h.parts = .ok ⟨String.ofList (pool.text.toList.takeWhile (· != '/')),
      Lifecycle.nodeIdFor s k ++ "." ++ sc.world.domain.text, Lifecycle.nodeIdFor s k⟩ := by
    show HostName.parseValue h.name = _
    rw [named, World.hostName_text, domain]
    exact HostName.parse_built _ _ _ poolStart filled dotless slashless domainPlain
  exact ⟨_, parts, rfl⟩

/-- Every deletion of a pass in the in-memory world has a reason, however the pass ends. Either
the pass touched no host record and no node, or the world listed hosts for the pool when the pass
began and the calls of the pass are attributed to them, as the world classified them then: the
nodes it started are those of a prefix of the sleeping hosts, in order; every record or node it
deleted is a stale host's, a sleeping host's never tried when the settings delete a surplus, or,
when the settings sweep, a node that its listing under the name prefix returned, tagged for the
pool, whose id, lower-cased, is the node id of no host listed and of no node the pass drew. This
holds when the pass can read the names of the hosts it makes back: the name prefix holds no `.`
and no `/`, the pool name starts with a character other than `/`, and the domain holds no `/`. -/
theorem pass_deletes_only_attributed (env : Env) (watch : Bool) (s : Settings) (pool : Value)
    (b : Books) (sc : Scene) (noDot : '.' ∉ s.template.namePrefix.text.toList)
    (noSlash : '/' ∉ s.template.namePrefix.text.toList)
    (poolStart : ∃ c cs, pool.text.toList = c :: cs ∧ c ≠ '/')
    (domainPlain : '/' ∉ sc.world.domain.text.toList) :
    let calls := (exec (ensureCapacity (Scene.services env watch).traced s pool) b (sc, [])).state.2
    (∀ c ∈ calls, c.touchesHosts = false) ∨
      ∃ hosts, ((World.listHosts pool).run sc.world).1 = .ok hosts ∧
        Attributed s pool hosts ((classify (Scene.services env watch).compute hosts).run sc).1 calls := by
  intro calls
  have quietTouches : ∀ c : Call, c.quiet = true → c.touchesHosts = false :=
    fun c still => (Call.quiet_calm still).2.2.2
  rcases ensureCapacity_traced (Scene.services env watch) s pool b sc with ⟨answer, -, logged⟩ | ran
  · -- stopped before the lock, having only asked whether to go on
    refine .inl fun c member => ?_
    rw [show calls = _ from logged, List.mem_singleton] at member
    rw [member]
    rfl
  have lockedCalls : calls = (exec (stages (Scene.services env watch).traced s pool)
      { b with locked := pool :: b.locked }
      (((Scene.services env watch).cancelled.run sc).2, [.cancelCheck false])).state.2 := by
    show (exec (ensureCapacity _ s pool) b (sc, [])).state.2 = _
    rw [ran]
  rw [lockedCalls]
  generalize { b with locked := pool :: b.locked } = b0
  have atLock := (Scene.surveyWithin env watch).cancelled b sc
  have domainAtLock := (Scene.convergeWithin_domain env watch).cancelled b sc
  generalize ((Scene.services env watch).cancelled.run sc).2 = t0 at atLock domainAtLock
  obtain ⟨surveyed, grown, still⟩ := survey_keeps (surveyWithin_quiet (Scene.services env watch)) s
    pool (fun b t _ => books_calls b _ t) b0 (t0, [.cancelCheck false])
  have domainSurveyed := survey_keeps (surveyWithin_fixing _ (Scene.surveyWithin_domain env watch))
    s pool (fun _ _ _ => rfl) b0 (t0, [.cancelCheck false])
  unfold stages
  rw [exec_bind]
  rcases surveying : exec (survey (Scene.services env watch).traced s pool) b0
    (t0, [.cancelCheck false]) with ⟨_ | v, b1, t1, log1⟩
  · rw [surveying] at grown
    refine .inl fun c member => ?_
    simp only at grown
    rw [grown] at member
    rcases List.mem_cons.mp member with rfl | later
    · rfl
    · exact quietTouches c (still c later)
  rw [surveying] at grown domainSurveyed
  simp only at grown domainSurveyed
  dsimp only
  rw [exec_bind, exec_checkpoint_traced (Scene.services env watch)]
  by_cases cancelled : ((Scene.services env watch).cancelled.run t1).1 = true
  · simp only [cancelled, if_true]
    refine .inl fun c member => ?_
    rw [grown] at member
    simp only [List.mem_append, List.mem_cons, List.mem_nil_iff, or_false] at member
    rcases member with (rfl | later) | rfl
    · rfl
    · exact quietTouches c (still c later)
    · rfl
  simp only [cancelled, Bool.false_eq_true, if_false]
  refine .inr ?_
  -- what the survey saw is what the world showed when the pass began
  obtain ⟨-, ⟨_, tl, listing, listed⟩, ⟨_, tc, classifying, classified⟩⟩ :=
    survey_returns (surveyWithin_fixing _ (Scene.surveyWithin env watch)) s pool (fun _ _ _ => rfl)
      b0 (t0, [.cancelCheck false]) v (by rw [surveying])
  have listedAtStart : tl.1.world.seen = sc.world.seen :=
    congrArg Prod.fst ((show Scene.surveyed tl.1 = Scene.surveyed t0 from listing).trans atLock)
  have classifiedAtStart : tc.1.world.seen = sc.world.seen :=
    congrArg Prod.fst ((show Scene.surveyed tc.1 = Scene.surveyed t0 from classifying).trans atLock)
  have hostsListed : ((World.listHosts pool).run sc.world).1 = .ok v.hosts := by
    rw [← World.listHosts_seen pool listedAtStart]
    exact Scene.listHosts_answer env watch pool tl.1 listed
  have classes : ((classify (Scene.services env watch).compute v.hosts).run sc).1 = v.classes := by
    rw [Scene.classify_seen env watch v.hosts classifiedAtStart.symm,
      ← (classify_traced _ v.hosts tc.1 tc.2).1]
    exact classified
  have parsed : ∀ h ∈ v.classes.resumable, ∃ q, h.parts = .ok q := by
    rw [← classified]
    exact classify_resumable_parses _ v.hosts tc
  refine ⟨v.hosts, hostsListed, ?_⟩
  rw [classes]
  have domainAtConverge : Scene.domain ((Scene.services env watch).cancelled.run t1).2 = sc.domain :=
    ((Scene.convergeWithin_domain env watch).cancelled b1 t1).trans
      ((show Scene.domain t1 = Scene.domain t0 from domainSurveyed).trans domainAtLock)
  obtain ⟨new, grownConverge, attributed⟩ := converge_attributed (Scene.services env watch)
    (Scene.convergeWithin_domain env watch) s pool
    (scene_namesDrawn env watch s pool sc noDot noSlash poolStart domainPlain) v parsed b1 _
    (log1 ++ [.cancelCheck false]) domainAtConverge
  rw [grownConverge, grown]
  have before : ∀ c ∈ [Call.cancelCheck false] ++ surveyed ++ [.cancelCheck false], c.quiet = true := by
    intro c member
    simp only [List.mem_append, List.mem_cons, List.mem_nil_iff, or_false] at member
    rcases member with (rfl | later) | rfl
    · rfl
    · exact still c later
    · rfl
  exact Attributed.quiet_append before attributed

/-- Wanting one host over `surplusScene`, the pass deletes five things, the record and node of the
stale host, the record and node of the surplus sleeper and the stray node, and each is
attributed. -/
theorem pass_deletes_only_attributed_surplus :
    '.' ∉ (fixedSettings 1).template.namePrefix.text.toList ∧
      '/' ∉ (fixedSettings 1).template.namePrefix.text.toList ∧
      (∃ c cs, (Value.str "HP").text.toList = c :: cs ∧ c ≠ '/') ∧
      '/' ∉ surplusScene.world.domain.text.toList ∧
      let calls := (exec (ensureCapacity (Scene.services default false).traced (fixedSettings 1)
        (.str "HP")) {} (surplusScene, [])).state.2
      (calls.filter Call.deletes).length = 5 ∧
      ((∀ c ∈ calls, c.touchesHosts = false) ∨
        ∃ hosts, ((World.listHosts (.str "HP")).run surplusScene.world).1 = .ok hosts ∧
          Attributed (fixedSettings 1) (.str "HP") hosts
            ((classify (Scene.services default false).compute hosts).run surplusScene).1 calls) :=
  ⟨by decide, by decide, ⟨'H', ['P'], rfl, by decide⟩, by decide, by decide +kernel,
    pass_deletes_only_attributed default false (fixedSettings 1) (.str "HP") {} surplusScene
      (by decide) (by decide) ⟨'H', ['P'], rfl, by decide⟩ (by decide)⟩

end Reconcile

end DesktopPool
