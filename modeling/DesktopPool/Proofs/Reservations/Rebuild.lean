import DesktopPool.Proofs.Convergence.Pool

/-! Rebuilding a pool's reservations, for every behaviour of the services. The services are
watched: every operation writes what it was asked and, for the two listings, the assignment
lookups and the slot deletions, what it answered (`watched`). `Judged` gives the rules for one
slot: a slot that names no workload, or one that is no key, is left alone with no call; a
slot whose workload is missing or stopped is deleted; a running workload's slot is asked for its
assignments, and deleted when it has none, left alone when the question fails, and granted a
reservation when it has some. `rebuild_replaces_valid_set` says that a rebuild follows the rules
for every listed slot in order and stores, for its pool alone, exactly the workloads granted,
and that a failed listing raises a rebuild fault and stores nothing. -/
namespace DesktopPool

theorem Value.str_same {j : Value} {s : String} (same : (Value.str s).same j = true) : j = .str s := by
  cases j <;> simp_all [Value.same, Value.num?]

namespace Books

variable (p : String) (v : List Value)

theorem put_present {xs : List (Value × List Value)} (present : xs.any ((Value.str p).same ·.1)) :
    Keyed.put Value.same xs (.str p) v =
      xs.map fun e => if (Value.str p).same e.1 then (e.1, v) else e := by
  unfold Keyed.put
  rw [if_pos present]

theorem find?_present_self (xs : List (Value × List Value))
    (present : xs.any ((Value.str p).same ·.1)) :
    Keyed.find? Value.same (xs.map fun e => if (Value.str p).same e.1 then (e.1, v) else e)
      (.str p) = some v := by
  induction xs with
  | nil => cases present
  | cons e rest ih =>
    unfold Keyed.find? at ih ⊢
    by_cases named : (Value.str p).same e.1
    · simp [named]
    · have later : rest.any ((Value.str p).same ·.1) := by simpa [named] using present
      simpa [named] using ih later

theorem find?_present_other (xs : List (Value × List Value)) {q : Value}
    (other : q.same (.str p) = false) :
    Keyed.find? Value.same (xs.map fun e => if (Value.str p).same e.1 then (e.1, v) else e) q =
      Keyed.find? Value.same xs q := by
  induction xs with
  | nil => rfl
  | cons e rest ih =>
    unfold Keyed.find? at ih ⊢
    rw [List.map_cons, List.find?_cons, List.find?_cons]
    by_cases named : (Value.str p).same e.1
    · -- the entry is the pool's, which `q` does not name
      have pool : e.1 = .str p := Value.str_same named
      rw [if_pos named]
      simp only [pool, other]
      exact ih
    · simp only [named, Bool.false_eq_true, if_false]
      cases q.same e.1
      · exact ih
      · rfl

theorem reservationsOf_replace_self (b : Books) (ids : List Value) :
    (b.replaceReservations (.str p) ids).reservationsOf (.str p) = Value.distinctKeys ids := by
  unfold reservationsOf replaceReservations
  by_cases present : b.reservations.any ((Value.str p).same ·.1)
  · rw [put_present p _ present, find?_present_self p _ _ present]
    rfl
  · -- a new entry, last, under the pool's name
    have absent : b.reservations.find? ((Value.str p).same ·.1) = none := by
      simpa using present
    simp [Keyed.put, Keyed.find?, present, absent]

theorem reservationsOf_replace_other (b : Books) (ids : List Value) {q : Value}
    (other : q.same (.str p) = false) :
    (b.replaceReservations (.str p) ids).reservationsOf q = b.reservationsOf q := by
  unfold reservationsOf replaceReservations
  by_cases present : b.reservations.any ((Value.str p).same ·.1)
  · rw [put_present p _ present, find?_present_other p _ _ other]
  · simp [Keyed.put, Keyed.find?, present, other]

end Books

namespace Reservations

/-- What a rebuild is told by the services, in the order it asks: the slot listing, the node
listing, each slot's assignments and each slot deletion, with the answers; any other operation
is written as `other`. -/
inductive Event where
  | listSlots (pool : Value) (answer : Outcome (List AppGroup))
  | listNodes (answer : Outcome (List ComputeNode))
  | assignments (slot : Value) (answer : Outcome (List Value))
  | deleteSlot (slot : Value) (answer : Outcome Unit)
  | other

variable {σ α : Type}

def watch (x : StateM σ α) (e : α → Event) : StateM (σ × List Event) α :=
  fun (t, log) => let (a, t') := x.run t; (a, t', log ++ [e a])

@[simp] theorem watch_run (x : StateM σ α) (e : α → Event) (t : σ) (log : List Event) :
    (watch x e).run (t, log) = ((x.run t).1, (x.run t).2, log ++ [e (x.run t).1]) := rfl

def watched (svc : Services (StateM σ)) : Services (StateM (σ × List Event)) where
  compute := {
    create := fun spec => watch (svc.compute.create spec) fun _ => .other
    start := fun id => watch (svc.compute.start id) fun _ => .other
    stop := fun id => watch (svc.compute.stop id) fun _ => .other
    delete := fun id => watch (svc.compute.delete id) fun _ => .other
    get := fun id full => watch (svc.compute.get id full) fun _ => .other
    listAll := fun p => watch (svc.compute.listAll p) .listNodes
    runScript := fun id script t poll => watch (svc.compute.runScript id script t poll) fun _ => .other }
  directory := {
    listHosts := fun pool => watch (svc.directory.listHosts pool) fun _ => .other
    deleteHost := fun h => watch (svc.directory.deleteHost h) fun _ => .other
    waitReady := fun pool id t => watch (svc.directory.waitReady pool id t) fun _ => .other
    listSlots := fun pool => watch (svc.directory.listSlots pool) (.listSlots pool)
    createSlot := fun pool name w => watch (svc.directory.createSlot pool name w) fun _ => .other
    deleteSlot := fun name => watch (svc.directory.deleteSlot name) (.deleteSlot name)
    publish := fun ws name => watch (svc.directory.publish ws name) fun _ => .other
    unpublish := fun ws name => watch (svc.directory.unpublish ws name) fun _ => .other
    assignments := fun name => watch (svc.directory.assignments name) (.assignments name)
    assign := fun name p kind => watch (svc.directory.assign name p kind) fun _ => .other
    registrationToken := fun pool => watch (svc.directory.registrationToken pool) fun _ => .other }
  cancelled := watch svc.cancelled fun _ => .other
  fresh := watch svc.fresh fun _ => .other
  env := svc.env

theorem watched_listAll_run (svc : Services (StateM σ)) (v : Value) (t : σ) (log : List Event) :
    ((watched svc).compute.listAll v).run (t, log) =
      (((svc.compute.listAll v).run t).1, ((svc.compute.listAll v).run t).2,
        log ++ [.listNodes ((svc.compute.listAll v).run t).1]) := rfl

/-- The node an inventory holds for a workload: the last one listed under an equal id. -/
def nodeFor (nodes : List ComputeNode) (workload : Value) : Option ComputeNode :=
  (nodes.filter (·.id.same workload)).getLast?

/-- How a rebuild treats one slot: the events it causes, and whether the slot grants its
workload a reservation. -/
inductive Judged (nodes : List ComputeNode) (slot : AppGroup) : List Event → Bool → Prop where
  /-- A slot that names no workload is skipped, with no call. -/
  | unnamed : slot.workloadId.truthy = false → Judged nodes slot [] false
  /-- A workload that is no key cannot be looked up; the slot is left as it is. -/
  | unkeyed : slot.workloadId.truthy = true → slot.workloadId.isHashable = false →
      Judged nodes slot [] false
  /-- A slot whose workload is not in the inventory is deleted, whatever the deletion answers. -/
  | missing (answer : Outcome Unit) : slot.workloadId.truthy = true →
      slot.workloadId.isHashable = true → nodeFor nodes slot.workloadId = none →
      Judged nodes slot [.deleteSlot slot.name answer] false
  /-- So is a slot whose workload is not running. -/
  | stopped (node : ComputeNode) (answer : Outcome Unit) : slot.workloadId.truthy = true →
      slot.workloadId.isHashable = true → nodeFor nodes slot.workloadId = some node →
      node.isRunning = false → Judged nodes slot [.deleteSlot slot.name answer] false
  /-- A running workload's slot is asked for its assignments; a failed answer leaves it alone. -/
  | unavailable (node : ComputeNode) (e : Fault) : slot.workloadId.truthy = true →
      slot.workloadId.isHashable = true → nodeFor nodes slot.workloadId = some node →
      node.isRunning = true → Judged nodes slot [.assignments slot.name (.error e)] false
  /-- No assignment: the slot is deleted. -/
  | unassigned (node : ComputeNode) (answer : Outcome Unit) : slot.workloadId.truthy = true →
      slot.workloadId.isHashable = true → nodeFor nodes slot.workloadId = some node →
      node.isRunning = true →
      Judged nodes slot [.assignments slot.name (.ok []), .deleteSlot slot.name answer] false
  /-- Some assignment: the workload holds a reservation. -/
  | granted (node : ComputeNode) (first : Value) (rest : List Value) :
      slot.workloadId.truthy = true → slot.workloadId.isHashable = true →
      nodeFor nodes slot.workloadId = some node → node.isRunning = true →
      Judged nodes slot [.assignments slot.name (.ok (first :: rest))] true

def grants : Outcome Verdict → Bool
  | .ok .valid => true
  | _ => false

theorem lookup_hashable {nodes : List ComputeNode} {w : Value} (hashable : w.isHashable = true) :
    lookup nodes w = .ok (nodeFor nodes w) := by
  simp [lookup, Value.asKey, hashable, nodeFor]

theorem exec_invalidate (svc : Services (StateM σ)) (slot : AppGroup) (v : Verdict) (b : Books)
    (t : σ) (log : List Event) :
    Pass.exec (invalidate (watched svc) slot v) b (t, log) =
      ⟨.ok v, b, ((svc.directory.deleteSlot slot.name).run t).2,
        log ++ [.deleteSlot slot.name ((svc.directory.deleteSlot slot.name).run t).1]⟩ := rfl

/-- One slot judged: the events it causes follow the rules, the books stay, and the slot grants
a reservation exactly when the rules say. -/
theorem validate_judged (svc : Services (StateM σ)) (nodes : List ComputeNode) (slot : AppGroup)
    (b : Books) (t : σ) (log : List Event) :
    ∃ events granted o t', Judged nodes slot events granted ∧
      Pass.exec (validate (watched svc) nodes slot) b (t, log) = ⟨o, b, t', log ++ events⟩ ∧
      grants o = granted := by
  unfold validate
  by_cases named : slot.workloadId.truthy
  · simp only [named, Bool.not_true, Bool.false_eq_true, if_false]
    by_cases hashable : slot.workloadId.isHashable
    · rw [Pass.exec_bind_ok (by rw [Pass.exec_check, lookup_hashable hashable])]
      rcases found : nodeFor nodes slot.workloadId with _ | node
      · exact ⟨_, false, .ok .workloadMissing, _, .missing _ named hashable found,
          exec_invalidate svc slot _ b t log, rfl⟩
      · by_cases running : node.isRunning
        · simp only [running, Bool.not_true, Bool.false_eq_true, if_false]
          have asked : Pass.exec (liftM ((watched svc).directory.assignments slot.name)) b (t, log) =
              ⟨.ok ((svc.directory.assignments slot.name).run t).1, b,
                ((svc.directory.assignments slot.name).run t).2,
                log ++ [.assignments slot.name ((svc.directory.assignments slot.name).run t).1]⟩ :=
            rfl
          rw [Pass.exec_bind_ok asked]
          generalize ((svc.directory.assignments slot.name).run t) = answer
          rcases answer with ⟨_ | _ | ⟨first, rest⟩, t'⟩
          · exact ⟨_, false, .ok .assignmentsUnavailable, _,
              .unavailable node _ named hashable found running, rfl, rfl⟩
          · -- no assignment: the deletion runs from where the question left the services
            refine ⟨_, false, .ok .noAssignments, ((svc.directory.deleteSlot slot.name).run t').2,
              .unassigned node ((svc.directory.deleteSlot slot.name).run t').1 named hashable found
                running, ?_, rfl⟩
            simp only [List.isEmpty_nil, if_true, exec_invalidate, List.append_assoc]
            rfl
          · exact ⟨_, true, _, _, .granted node first rest named hashable found running, rfl, rfl⟩
        · simp only [running, Bool.not_false, if_true]
          exact ⟨_, false, .ok .workloadNotRunning, _,
            .stopped node _ named hashable found (by simpa using running),
            exec_invalidate svc slot _ b t log, rfl⟩
    · have unkeyed : lookup nodes slot.workloadId = .error slot.workloadId.unhashable := by
        simp [lookup, Value.asKey, hashable]
      refine ⟨[], false, .error slot.workloadId.unhashable, t,
        .unkeyed named (by simpa using hashable), ?_, rfl⟩
      rw [Pass.exec_bind_error (by rw [Pass.exec_check, unkeyed]), List.append_nil]
  · refine ⟨[], false, .ok .unparseable, t, .unnamed (by simpa using named), ?_, rfl⟩
    simp [named]

def grantedIds (slots : List AppGroup) (granted : List Bool) : List Value :=
  ((slots.zip granted).filter (·.2)).map (·.1.workloadId)

/-- Every slot judged in turn: the events are each slot's in order, the books stay, and the
outcomes are one per slot, granting as the verdicts say. -/
theorem fanOut_judged (svc : Services (StateM σ)) (nodes : List ComputeNode) (slots : List AppGroup)
    (b : Books) (t : σ) (log : List Event) :
    ∃ verdicts outcomes t', List.Forall₂ (fun slot v => Judged nodes slot v.1 v.2) slots verdicts ∧
      Pass.exec (Pass.fanOut (validate (watched svc) nodes) slots) b (t, log) =
        ⟨.ok outcomes, b, t', log ++ (verdicts.map Prod.fst).flatten⟩ ∧
      outcomes.map Prod.fst = slots ∧ outcomes.map (grants ·.2) = verdicts.map Prod.snd := by
  induction slots generalizing t log with
  | nil => exact ⟨[], [], t, .nil, by simp, rfl, rfl⟩
  | cons slot rest ih =>
    obtain ⟨events, granted, o, t₁, judged, ran, grant⟩ := validate_judged svc nodes slot b t log
    obtain ⟨verdicts, outcomes, t₂, judgedRest, ranRest, firsts, grantsRest⟩ :=
      ih t₁ (log ++ events)
    refine ⟨(events, granted) :: verdicts, (slot, o) :: outcomes, t₂, .cons judged judgedRest,
      ?_, by simp [firsts], by simp [grant, grantsRest]⟩
    rw [Pass.fanOut_cons, Pass.exec_bind, Pass.exec_attempt, ran]
    dsimp only
    rw [Pass.exec_bind, ranRest]
    simp

theorem filterMap_grants {f : AppGroup × Outcome Verdict → Option Value}
    (picks : ∀ slot o, f (slot, o) = if grants o then some slot.workloadId else none)
    (outcomes : List (AppGroup × Outcome Verdict)) :
    outcomes.filterMap f = grantedIds (outcomes.map Prod.fst) (outcomes.map (grants ·.2)) := by
  induction outcomes with
  | nil => rfl
  | cons head rest ih =>
    obtain ⟨slot, o⟩ := head
    rw [List.filterMap_cons, picks]
    by_cases hit : grants o <;> simp [hit, ih, grantedIds]

theorem exec_watched_ok {x : StateM σ (Outcome α)} {e : Outcome α → Event} {a : α} {t t₁ : σ}
    (answered : x.run t = (.ok a, t₁)) (h : Fault → Pass (StateM (σ × List Event)) α) (b : Books)
    (log : List Event) :
    Pass.exec (tryCatch (Pass.call (watch x e)) h) b (t, log) = ⟨.ok a, b, t₁, log ++ [e (.ok a)]⟩ := by
  rw [Pass.exec_tryCatch, Pass.exec_call, watch_run, answered]

theorem exec_watched_error {x : StateM σ (Outcome α)} {e : Outcome α → Event} {f : Fault}
    {t t₁ : σ} (answered : x.run t = (.error f, t₁)) (h : Fault → Pass (StateM (σ × List Event)) α)
    (b : Books) (log : List Event) :
    Pass.exec (tryCatch (Pass.call (watch x e)) h) b (t, log) =
      Pass.exec (h f) b (t₁, log ++ [e (.error f)]) := by
  rw [Pass.exec_tryCatch, Pass.exec_call, watch_run, answered]

theorem inventory_keyed {nodes : List ComputeNode} (keyed : ∀ n ∈ nodes, n.id.isHashable = true) :
    (nodes.mapM fun n => do let _ ← n.id.asKey; pure n : Outcome (List ComputeNode)) = .ok nodes := by
  induction nodes with
  | nil => rfl
  | cons n rest ih =>
    have first : n.id.asKey = .ok n.id := by simp [Value.asKey, keyed n List.mem_cons_self]
    simp only [List.mapM_cons, first, ih fun m member => keyed m (List.mem_cons_of_mem n member)]
    rfl

theorem inventory_unkeyed {nodes : List ComputeNode} {n : ComputeNode}
    (first : nodes.find? (fun n => !n.id.isHashable) = some n) :
    (nodes.mapM fun n => do let _ ← n.id.asKey; pure n : Outcome (List ComputeNode)) =
      .error n.id.unhashable := by
  induction nodes with
  | nil => cases first
  | cons m rest ih =>
    by_cases keyed : m.id.isHashable
    · have later : rest.find? (fun n => !n.id.isHashable) = some n := by simpa [keyed] using first
      have first : m.id.asKey = .ok m.id := by simp [Value.asKey, keyed]
      simp only [List.mapM_cons, first, ih later]
      rfl
    · have same : m = n := by simpa [keyed] using first
      subst same
      have first : m.id.asKey = .error m.id.unhashable := by simp [Value.asKey, keyed]
      simp only [List.mapM_cons, first]
      rfl

section Run

variable (svc : Services (StateM σ)) (p : String) (b : Books) (log : List Event)

theorem exec_listSlots_ok {slots : List AppGroup} {t t₁ : σ}
    (listed : (svc.directory.listSlots (.str p)).run t = (.ok slots, t₁))
    (h : Fault → Pass (StateM (σ × List Event)) (List AppGroup)) :
    Pass.exec (tryCatch (Pass.call ((watched svc).directory.listSlots (.str p))) h) b (t, log) =
      ⟨.ok slots, b, t₁, log ++ [.listSlots (.str p) (.ok slots)]⟩ :=
  exec_watched_ok listed h b log

theorem exec_listSlots_error {e : Fault} {t t₁ : σ}
    (listed : (svc.directory.listSlots (.str p)).run t = (.error e, t₁))
    (h : Fault → Pass (StateM (σ × List Event)) (List AppGroup)) :
    Pass.exec (tryCatch (Pass.call ((watched svc).directory.listSlots (.str p))) h) b (t, log) =
      Pass.exec (h e) b (t₁, log ++ [.listSlots (.str p) (.error e)]) :=
  exec_watched_error listed h b log

theorem rebuild_slots_failed {e : Fault} {t t₁ : σ}
    (answered : (svc.directory.listSlots (.str p)).run t = (.error e, t₁)) :
    Pass.exec (rebuild (watched svc) (.str p)) b (t, log) =
      ⟨.error (.causedBy .rebuild s!"Failed to list slots for pool {p}: {e.message}" e), b, t₁,
        log ++ [.listSlots (.str p) (.error e)]⟩ := by
  unfold rebuild
  exact Pass.exec_bind_error (by rw [exec_listSlots_error svc p b log answered]; rfl)

theorem rebuild_nodes_failed {slots : List AppGroup} {e : Fault} {t t₁ t₂ : σ}
    (listed : (svc.directory.listSlots (.str p)).run t = (.ok slots, t₁))
    (inventoried : (svc.compute.listAll .null).run t₁ = (.error e, t₂)) :
    Pass.exec (rebuild (watched svc) (.str p)) b (t, log) =
      ⟨.error (.causedBy .rebuild s!"Failed to fetch workload inventory: {e.message}" e), b, t₂,
        log ++ [.listSlots (.str p) (.ok slots), .listNodes (.error e)]⟩ := by
  unfold rebuild
  rw [Pass.exec_bind_ok (exec_listSlots_ok svc p b log listed _)]
  refine Pass.exec_bind_error ?_
  rw [Pass.exec_tryCatch, Pass.exec_bind, Pass.exec_call, watched_listAll_run, inventoried]
  simp

theorem rebuild_nodes_unkeyed {slots : List AppGroup} {nodes : List ComputeNode} {n : ComputeNode}
    {t t₁ t₂ : σ} (listed : (svc.directory.listSlots (.str p)).run t = (.ok slots, t₁))
    (inventoried : (svc.compute.listAll .null).run t₁ = (.ok nodes, t₂))
    (first : nodes.find? (fun n => !n.id.isHashable) = some n) :
    Pass.exec (rebuild (watched svc) (.str p)) b (t, log) =
      ⟨.error (.causedBy .rebuild s!"Failed to fetch workload inventory: {n.id.unhashable.message}"
        n.id.unhashable), b, t₂, log ++ [.listSlots (.str p) (.ok slots), .listNodes (.ok nodes)]⟩ := by
  unfold rebuild
  rw [Pass.exec_bind_ok (exec_listSlots_ok svc p b log listed _)]
  refine Pass.exec_bind_error ?_
  rw [Pass.exec_tryCatch, Pass.exec_bind, Pass.exec_call, watched_listAll_run, inventoried]
  simp only [Pass.exec_check, inventory_unkeyed first, Pass.exec_raise, List.append_assoc,
    List.cons_append, List.nil_append]

theorem rebuild_judged {slots : List AppGroup} {nodes : List ComputeNode} {t t₁ t₂ : σ}
    (listed : (svc.directory.listSlots (.str p)).run t = (.ok slots, t₁))
    (inventoried : (svc.compute.listAll .null).run t₁ = (.ok nodes, t₂))
    (keyed : ∀ n ∈ nodes, n.id.isHashable = true) :
    ∃ verdicts t₃, List.Forall₂ (fun slot v => Judged nodes slot v.1 v.2) slots verdicts ∧
      Pass.exec (rebuild (watched svc) (.str p)) b (t, log) =
        ⟨.ok (Value.distinctKeys (grantedIds slots (verdicts.map Prod.snd))),
          b.replaceReservations (.str p) (grantedIds slots (verdicts.map Prod.snd)), t₃,
          log ++ [.listSlots (.str p) (.ok slots), .listNodes (.ok nodes)] ++
            (verdicts.map Prod.fst).flatten⟩ := by
  obtain ⟨verdicts, outcomes, t₃, judged, fanned, firsts, granted⟩ :=
    fanOut_judged svc nodes slots b t₂ (log ++ [.listSlots (.str p) (.ok slots), .listNodes (.ok nodes)])
  refine ⟨verdicts, t₃, judged, ?_⟩
  have inventory : Pass.exec (tryCatch (do
        let nodes ← Pass.call ((watched svc).compute.listAll .null)
        Pass.check (nodes.mapM fun n => do let _ ← n.id.asKey; pure n)) fun e =>
      Pass.raise (.causedBy .rebuild s!"Failed to fetch workload inventory: {e.message}" e))
      b (t₁, log ++ [.listSlots (.str p) (.ok slots)]) =
      ⟨.ok nodes, b, t₂, log ++ [.listSlots (.str p) (.ok slots), .listNodes (.ok nodes)]⟩ := by
    rw [Pass.exec_tryCatch, Pass.exec_bind, Pass.exec_call, watched_listAll_run, inventoried]
    simp only [Pass.exec_check, inventory_keyed keyed, List.append_assoc, List.cons_append,
      List.nil_append]
  unfold rebuild
  rw [Pass.exec_bind_ok (exec_listSlots_ok svc p b log listed _), Pass.exec_bind_ok inventory,
    Pass.exec_bind_ok fanned, filterMap_grants ?picks outcomes, firsts, granted]
  · rfl
  · -- the rebuild keeps exactly the valid verdicts
    intro slot o
    rcases o with e | v
    · rfl
    · cases v <;> rfl

end Run

/-- A rebuild of the reservations of pool `p`, for every behaviour of the services and every
books it starts from. It asks for the pool's slots; if that fails it raises a rebuild fault
naming the pool. It then asks for the node inventory; if that fails, or a node's id is no key,
it raises a rebuild fault about the inventory. Either fault leaves the books as they were.
Otherwise it judges every listed slot in turn by the rules of `Judged`, which say which slots
are asked for assignments (those of a running workload) and which are deleted, once each
(missing or stopped workload, no assignment), whatever the deletions answer; it makes no other
call. It then stores, and returns, the workloads of the slots that grant a reservation, each
once: for the pool this set replaces whatever was there, and no other pool's set changes. -/
theorem rebuild_replaces_valid_set (svc : Services (StateM σ)) (p : String) (b : Books) (t : σ)
    (log : List Event) :
    let run := Pass.exec (rebuild (watched svc) (.str p)) b (t, log)
    ∃ events, run.state.2 = log ++ events ∧
      ((∃ e, events = [.listSlots (.str p) (.error e)] ∧
          run.outcome = .error (.causedBy .rebuild s!"Failed to list slots for pool {p}: {e.message}" e) ∧
          run.books = b) ∨
        (∃ slots e, events = [.listSlots (.str p) (.ok slots), .listNodes (.error e)] ∧
          run.outcome = .error (.causedBy .rebuild s!"Failed to fetch workload inventory: {e.message}" e) ∧
          run.books = b) ∨
        (∃ slots nodes n, events = [.listSlots (.str p) (.ok slots), .listNodes (.ok nodes)] ∧
          nodes.find? (fun n => !n.id.isHashable) = some n ∧
          run.outcome = .error (.causedBy .rebuild
            s!"Failed to fetch workload inventory: {n.id.unhashable.message}" n.id.unhashable) ∧
          run.books = b) ∨
        (∃ slots nodes verdicts, (∀ n ∈ nodes, n.id.isHashable = true) ∧
          List.Forall₂ (fun slot v => Judged nodes slot v.1 v.2) slots verdicts ∧
          events = [.listSlots (.str p) (.ok slots), .listNodes (.ok nodes)] ++
            (verdicts.map Prod.fst).flatten ∧
          run.outcome = .ok (Value.distinctKeys (grantedIds slots (verdicts.map Prod.snd))) ∧
          run.books.reservationsOf (.str p) =
            Value.distinctKeys (grantedIds slots (verdicts.map Prod.snd)) ∧
          (∀ q, q.same (.str p) = false → run.books.reservationsOf q = b.reservationsOf q) ∧
          run.books.locked = b.locked)) := by
  intro run
  -- the cases follow the two listings' answers, then whether every node id is a key
  rcases listed : (svc.directory.listSlots (.str p)).run t with ⟨e | slots, t₁⟩
  · rw [show run = _ from rebuild_slots_failed svc p b log listed]
    exact ⟨_, rfl, .inl ⟨e, rfl, rfl, rfl⟩⟩
  rcases inventoried : (svc.compute.listAll .null).run t₁ with ⟨e | nodes, t₂⟩
  · rw [show run = _ from rebuild_nodes_failed svc p b log listed inventoried]
    exact ⟨_, rfl, .inr (.inl ⟨slots, e, rfl, rfl, rfl⟩)⟩
  cases first : nodes.find? (fun n => !n.id.isHashable) with
  | some n =>
    rw [show run = _ from rebuild_nodes_unkeyed svc p b log listed inventoried first]
    exact ⟨_, rfl, .inr (.inr (.inl ⟨slots, nodes, n, rfl, first, rfl, rfl⟩))⟩
  | none =>
    have keyed : ∀ n ∈ nodes, n.id.isHashable = true := by
      intro n member
      simpa using List.find?_eq_none.mp first n member
    obtain ⟨verdicts, t₃, judged, ran⟩ := rebuild_judged svc p b log listed inventoried keyed
    rw [show run = _ from ran]
    exact ⟨_, List.append_assoc _ _ _, .inr (.inr (.inr ⟨slots, nodes, verdicts, keyed, judged, rfl,
      rfl, Books.reservationsOf_replace_self p b _,
      fun q other => Books.reservationsOf_replace_other p b _ other, rfl⟩))⟩

end Reservations

end DesktopPool
