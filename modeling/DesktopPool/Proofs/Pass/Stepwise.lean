import DesktopPool.Proofs.Pass.Exclusion
import DesktopPool.Pass.Events

/-! Work done in named steps, against services that answer anything. Creating a session host and
opening the slot of a workload each run a few service operations one after another, every step
from the state the one before left and every operation at most once; the first step that fails
ends the work with a fault that names the step, raised from the step's own fault, and the books
are never touched.

A creation draws one fresh number, which names the node, and then creates the node from its
spec, fetches the pool's registration token, builds the setup script around the token, runs the
script on the node with the configured deadline and poll interval, and waits, with the
configured deadline, for the host to be ready; when no step fails it returns the host the wait
handed back. The spec of a node carries the node id as its id and its name, the template's
image, size, security type and operating system, and the template's tags with the pool tag set
to the pool: every other tag reads as in the template.

A slot is created for its workload, published through the pool's workspace and granted to the
workload's user, or else to the configured users group, or to nobody. A workload event names
one of four events or is refused before any call; a created or started workload gets a pass over
its pool first and its slot only when the pass returns, and the event answers with the pass's
result; a stopped or deleted workload loses its slot, each failure of the removal ignored, and
then the pool gets a pass, whose ending is the event's. -/
namespace DesktopPool

theorem Table.lookup_set_ne (kvs : List (String × Value)) {key k : String} (v : Value)
    (other : k ≠ key) : (Table.set kvs key v).lookup k = kvs.lookup k := by
  have differ : (k == key) = false := by simpa using other
  unfold Table.set
  split
  · -- only entries under `key` change, and none of them is the entry `k` finds
    clear ‹kvs.any _ = true›
    induction kvs with
    | nil => rfl
    | cons kv rest later =>
      obtain ⟨k', w⟩ := kv
      by_cases here : k' = key
      · subst here
        simpa [List.lookup_cons, differ] using later
      · -- an entry not under `key` is kept as it was
        by_cases found : k = k'
        · simp [here, found]
        · have skipped : (k == k') = false := by simpa using found
          simpa [List.lookup_cons, here, skipped] using later
  · simp [List.lookup_append, List.lookup_cons, differ]

namespace Pass

variable {σ α : Type}

theorem exec_tryCatch_raise (x : Pass (StateM σ) α) (g : Fault → Fault) (b : Books) (t : σ) :
    exec (tryCatch x fun e => raise (g e)) b t =
      ⟨(exec x b t).outcome.mapError g, (exec x b t).books, (exec x b t).state⟩ := by
  rw [exec_tryCatch]
  rcases exec x b t with ⟨e | a, b', t'⟩ <;> rfl

end Pass

namespace Lifecycle

open Pass

variable {σ : Type}

def stepFault (nodeId : String) (step : CreationStep) (e : Fault) : Fault :=
  .causedBy (.hostCreation step.name nodeId)
    s!"Session host {nodeId} failed at {step.name}: {e.message}" e

@[simp] theorem stepFault_kind (nodeId : String) (step : CreationStep) (e : Fault) :
    (stepFault nodeId step e).kind = .hostCreation step.name nodeId := rfl

@[simp] theorem stepFault_cause (nodeId : String) (step : CreationStep) (e : Fault) :
    (stepFault nodeId step e).cause = some e.kind := rfl

theorem exec_stepOf {α : Type} (nodeId : String) (step : CreationStep) (x : Pass (StateM σ) α)
    (b : Books) (t : σ) :
    exec (stepOf nodeId step x) b t =
      ⟨(exec x b t).outcome.mapError (stepFault nodeId step), (exec x b t).books,
        (exec x b t).state⟩ :=
  exec_tryCatch_raise x (stepFault nodeId step) b t

theorem exec_build (svc : Services (StateM σ)) (s : Settings) (pool : Value) (nodeId : String)
    (b : Books) (t : σ) :
    exec (build svc s pool nodeId) b t =
      match nodeSpec s (.str nodeId) pool with
      | .error e => ⟨.error (stepFault nodeId .createNode e), b, t⟩
      | .ok spec =>
        match (svc.compute.create spec).run t with
        | (.error e, t₁) => ⟨.error (stepFault nodeId .createNode e), b, t₁⟩
        | (.ok _, t₁) =>
          match (svc.directory.registrationToken pool).run t₁ with
          | (.error e, t₂) => ⟨.error (stepFault nodeId .registrationToken e), b, t₂⟩
          | (.ok token, t₂) =>
            match SetupScript.build s.setup token svc.env with
            | .error e => ⟨.error (stepFault nodeId .buildScript e), b, t₂⟩
            | .ok script =>
              match (svc.compute.runScript (.str nodeId) (.str script) s.timeouts.script
                  s.timeouts.scriptPoll).run t₂ with
              | (.error e, t₃) => ⟨.error (stepFault nodeId .runSetup e), b, t₃⟩
              | (.ok _, t₃) =>
                match (svc.directory.waitReady pool (.str nodeId) s.timeouts.createReady).run t₃ with
                | (.error e, t₄) => ⟨.error (stepFault nodeId .waitReady e), b, t₄⟩
                | (.ok host, t₄) => ⟨.ok host, b, t₄⟩ := by
  simp only [build, exec_bind, exec_stepOf, exec_check, exec_call, exec_pure]
  rcases nodeSpec s (.str nodeId) pool with e | spec
  · rfl
  dsimp only [Except.mapError]
  rcases (svc.compute.create spec).run t with ⟨e | node, t₁⟩
  · rfl
  dsimp only [Except.mapError]
  rcases (svc.directory.registrationToken pool).run t₁ with ⟨e | token, t₂⟩
  · rfl
  dsimp only [Except.mapError]
  rcases SetupScript.build s.setup token svc.env with e | script
  · rfl
  dsimp only [Except.mapError]
  rcases (svc.compute.runScript (.str nodeId) (.str script) s.timeouts.script
    s.timeouts.scriptPoll).run t₂ with ⟨e | _, t₃⟩
  · rfl
  dsimp only [Except.mapError]
  rcases (svc.directory.waitReady pool (.str nodeId) s.timeouts.createReady).run t₃ with
    ⟨e | host, t₄⟩ <;> rfl

/-- A creation draws its node's number first and then runs the steps for the node it names. -/
theorem exec_create (svc : Services (StateM σ)) (s : Settings) (pool : Value) (b : Books) (t : σ) :
    exec (create svc s pool) b t =
      exec (build svc s pool (nodeIdFor s (svc.fresh.run t).1)) b (svc.fresh.run t).2 := by
  rw [create, exec_bind, exec_lift]

/-- The spec of a node whose template's tags form a table: the node id as id and name, the
template's machine, and the template's tags with the pool tag set to the pool. -/
theorem nodeSpec_tagged (s : Settings) (nodeId pool : Value) {kvs : List (String × Value)}
    (tagged : s.template.tags = .table kvs) :
    ∃ spec, nodeSpec s nodeId pool = .ok spec ∧ spec.id = nodeId ∧ spec.name = nodeId ∧
      spec.image = s.template.image ∧ spec.size = s.template.size ∧
      spec.securityType = s.template.securityType ∧
      spec.operatingSystem = s.template.operatingSystem ∧ spec.tags.get? poolTag = some pool ∧
      ∀ k, k ≠ poolTag → spec.tags.get? k = s.template.tags.get? k := by
  refine ⟨{ id := nodeId, name := nodeId, image := s.template.image, size := s.template.size,
             securityType := s.template.securityType,
             operatingSystem := s.template.operatingSystem,
             tags := .table (Table.set kvs poolTag pool) },
    by simp only [nodeSpec, tagged]; rfl, rfl, rfl, rfl, rfl, rfl, rfl,
    Table.lookup_set kvs poolTag pool, fun k other => ?_⟩
  rw [tagged]
  exact Table.lookup_set_ne kvs pool other

/-- Creating a host runs its five steps in order, each service operation once at most and from
the state the one before left, and stops at the first step that fails with the creation fault
naming that step and the node drawn; otherwise it returns the host the directory reported ready.
The node's spec is the template's, named for the node and tagged for the pool. -/
theorem create_runs_steps_in_order (svc : Services (StateM σ)) (s : Settings) (pool : Value)
    (b : Books) (t : σ) :
    (exec (create svc s pool) b t =
      match nodeSpec s (.str (nodeIdFor s (svc.fresh.run t).1)) pool with
      | .error e => ⟨.error (stepFault (nodeIdFor s (svc.fresh.run t).1) .createNode e), b,
          (svc.fresh.run t).2⟩
      | .ok spec =>
        match (svc.compute.create spec).run (svc.fresh.run t).2 with
        | (.error e, t₁) => ⟨.error (stepFault (nodeIdFor s (svc.fresh.run t).1) .createNode e), b, t₁⟩
        | (.ok _, t₁) =>
          match (svc.directory.registrationToken pool).run t₁ with
          | (.error e, t₂) =>
            ⟨.error (stepFault (nodeIdFor s (svc.fresh.run t).1) .registrationToken e), b, t₂⟩
          | (.ok token, t₂) =>
            match SetupScript.build s.setup token svc.env with
            | .error e => ⟨.error (stepFault (nodeIdFor s (svc.fresh.run t).1) .buildScript e), b, t₂⟩
            | .ok script =>
              match (svc.compute.runScript (.str (nodeIdFor s (svc.fresh.run t).1)) (.str script)
                  s.timeouts.script s.timeouts.scriptPoll).run t₂ with
              | (.error e, t₃) =>
                ⟨.error (stepFault (nodeIdFor s (svc.fresh.run t).1) .runSetup e), b, t₃⟩
              | (.ok _, t₃) =>
                match (svc.directory.waitReady pool (.str (nodeIdFor s (svc.fresh.run t).1))
                    s.timeouts.createReady).run t₃ with
                | (.error e, t₄) =>
                  ⟨.error (stepFault (nodeIdFor s (svc.fresh.run t).1) .waitReady e), b, t₄⟩
                | (.ok host, t₄) => ⟨.ok host, b, t₄⟩) ∧
    ∀ nodeId kvs, s.template.tags = .table kvs →
      ∃ spec, nodeSpec s nodeId pool = .ok spec ∧ spec.id = nodeId ∧ spec.name = nodeId ∧
        spec.image = s.template.image ∧ spec.size = s.template.size ∧
        spec.securityType = s.template.securityType ∧
        spec.operatingSystem = s.template.operatingSystem ∧ spec.tags.get? poolTag = some pool ∧
        ∀ k, k ≠ poolTag → spec.tags.get? k = s.template.tags.get? k :=
  ⟨(exec_create svc s pool b t).trans (exec_build svc s pool _ b _),
    fun nodeId _ tagged => nodeSpec_tagged s nodeId pool tagged⟩

/-- The default template's spec for node `shvm-0000000001` of pool `HP`, in the in-memory world. -/
theorem default_template_spec :
    ({} : Settings).template.tags = .table [("created-by", .str "avdpool: capacity reconciler")] ∧
    ∃ spec, nodeSpec {} (.str "shvm-0000000001") (.str "HP") = .ok spec ∧
      spec.id = .str "shvm-0000000001" ∧ spec.name = .str "shvm-0000000001" ∧
      spec.image = ({} : Settings).template.image ∧ spec.size = ({} : Settings).template.size ∧
      spec.securityType = ({} : Settings).template.securityType ∧
      spec.operatingSystem = ({} : Settings).template.operatingSystem ∧
      spec.tags.get? poolTag = some (.str "HP") ∧
      ∀ k, k ≠ poolTag → spec.tags.get? k = ({} : Settings).template.tags.get? k :=
  ⟨rfl, (create_runs_steps_in_order (Scene.services [] false) {} (.str "HP") {} {}).2
    (.str "shvm-0000000001") _ rfl⟩

end Lifecycle

namespace Events

open Pass

variable {σ : Type}

def slotFault (slot step : String) (e : Fault) : Fault :=
  .causedBy (.slotProvisioning step slot) s!"Reservation slot {slot} failed at {step}: {e.message}" e

@[simp] theorem slotFault_kind (slot step : String) (e : Fault) :
    (slotFault slot step e).kind = .slotProvisioning step slot := rfl

@[simp] theorem slotFault_cause (slot step : String) (e : Fault) :
    (slotFault slot step e).cause = some e.kind := rfl

theorem exec_stepOf {α : Type} (slot step : String) (x : Pass (StateM σ) α) (b : Books) (t : σ) :
    exec (stepOf slot step x) b t =
      ⟨(exec x b t).outcome.mapError (slotFault slot step), (exec x b t).books,
        (exec x b t).state⟩ :=
  exec_tryCatch_raise x (slotFault slot step) b t

/-- Opening the slot of workload `w` for user `u`, as the directory answers its steps. -/
theorem exec_openSlot (svc : Services (StateM σ)) (s : Settings) (pool w u : Value) (b : Books)
    (t : σ) :
    exec (openSlot svc s pool w u) b t =
      match (svc.directory.createSlot pool (.str (s.slotName w)) w).run t with
      | (.error e, t₁) => ⟨.error (slotFault (s.slotName w) "create_app_group" e), b, t₁⟩
      | (.ok slot, t₁) =>
        match (svc.directory.publish (.str (s.workspaceName pool)) (.str (s.slotName w))).run t₁ with
        | (.error e, t₂) => ⟨.error (slotFault (s.slotName w) "add_to_workspace" e), b, t₂⟩
        | (.ok _, t₂) =>
          if u.truthy then
            match (svc.directory.assign (.str (s.slotName w)) u (.str "User")).run t₂ with
            | (.error e, t₃) => ⟨.error (slotFault (s.slotName w) "assign_principal" e), b, t₃⟩
            | (.ok _, t₃) => ⟨.ok slot, b, t₃⟩
          else if s.usersGroupId.truthy then
            match (svc.directory.assign (.str (s.slotName w)) s.usersGroupId (.str "Group")).run t₂ with
            | (.error e, t₃) => ⟨.error (slotFault (s.slotName w) "assign_principal" e), b, t₃⟩
            | (.ok _, t₃) => ⟨.ok slot, b, t₃⟩
          else ⟨.ok slot, b, t₂⟩ := by
  simp only [openSlot, exec_bind, exec_stepOf, exec_call, exec_pure]
  rcases (svc.directory.createSlot pool (.str (s.slotName w)) w).run t with ⟨e | slot, t₁⟩
  · rfl
  dsimp only [Except.mapError]
  rcases (svc.directory.publish (.str (s.workspaceName pool)) (.str (s.slotName w))).run t₁ with
    ⟨e | _, t₂⟩
  · rfl
  dsimp only [Except.mapError]
  by_cases user : u.truthy
  · simp only [grantFor, user, if_true, exec_call]
    rcases (svc.directory.assign (.str (s.slotName w)) u (.str "User")).run t₂ with ⟨e | _, t₃⟩ <;> rfl
  · by_cases group : s.usersGroupId.truthy
    · simp only [grantFor, user, group, Bool.false_eq_true, if_false, if_true, exec_call]
      rcases (svc.directory.assign (.str (s.slotName w)) s.usersGroupId (.str "Group")).run t₂ with
        ⟨e | _, t₃⟩ <;> rfl
    · simp only [grantFor, user, group, Bool.false_eq_true, if_false, exec_pure]

end Events

namespace WorkloadEvent

theorem ofValue_name (ev : WorkloadEvent) : ofValue (.str ev.name) = .ok ev := by
  cases ev <;> rfl

theorem ofValue_unnamed {v : Value} (unnamed : ∀ ev : WorkloadEvent, v ≠ .str ev.name) :
    ∃ f, ofValue v = .error f ∧ f.kind = .badValue := by
  cases v with
  | str text =>
    have missing : all.find? (·.name == text) = none := by
      rw [List.find?_eq_none]
      intro ev _ named
      exact unnamed ev (by rw [beq_iff_eq.mp named])
    exact ⟨_, by simp only [ofValue, missing]; rfl, rfl⟩
  | _ => exact ⟨_, rfl, rfl⟩

end WorkloadEvent

open Pass

variable {σ : Type}

/-- An event that names none of the four is refused before any call. -/
theorem exec_handleEvent_unnamed (svc : Services (StateM σ)) (s : Settings) {event : Value}
    (unnamed : ∀ ev : WorkloadEvent, event ≠ .str ev.name) (pool w u : Value) (b : Books) (t : σ) :
    ∃ f, f.kind = .badValue ∧ exec (handleEvent svc s event pool w u) b t = ⟨.error f, b, t⟩ := by
  obtain ⟨f, refused, bad⟩ := WorkloadEvent.ofValue_unnamed unnamed
  refine ⟨f, bad, ?_⟩
  rw [handleEvent, exec_bind, exec_check, refused]

/-- A created or started workload gets a pass over its pool first, and its slot only when the
pass returns; the pass's result is the event's. -/
theorem exec_handleEvent_opening (svc : Services (StateM σ)) (s : Settings) {ev : WorkloadEvent}
    (opening : ev = .created ∨ ev = .started) (pool w u : Value) (b : Books) (t : σ) :
    exec (handleEvent svc s (.str ev.name) pool w u) b t =
      match exec (ensureCapacity svc s pool) b t with
      | ⟨.error e, b', t'⟩ => ⟨.error e, b', t'⟩
      | ⟨.ok r, b', t'⟩ =>
        ⟨(exec (Events.openSlot svc s pool w u) b' t').outcome.map (fun _ => r),
          (exec (Events.openSlot svc s pool w u) b' t').books,
          (exec (Events.openSlot svc s pool w u) b' t').state⟩ := by
  rw [handleEvent, exec_bind, exec_check, WorkloadEvent.ofValue_name]
  rcases opening with rfl | rfl <;>
  · dsimp only
    rw [exec_bind]
    rcases exec (ensureCapacity svc s pool) b t with ⟨e | r, b', t'⟩
    · rfl
    · dsimp only
      rw [exec_bind]
      rcases exec (Events.openSlot svc s pool w u) b' t' with ⟨e | slot, b'', t''⟩ <;> rfl

/-- A stopped or deleted workload loses its slot, whatever the directory answers, and then its
pool gets a pass, which ends as the event does. -/
theorem exec_handleEvent_closing (svc : Services (StateM σ)) (s : Settings) {ev : WorkloadEvent}
    (closing : ev = .stopped ∨ ev = .deleted) (pool w u : Value) (b : Books) (t : σ) :
    exec (handleEvent svc s (.str ev.name) pool w u) b t =
      exec (ensureCapacity svc s pool) b
        ((svc.directory.deleteSlot (.str (s.slotName w))).run
          ((svc.directory.unpublish (.str (s.workspaceName pool)) (.str (s.slotName w))).run t).2).2 := by
  rw [handleEvent, exec_bind, exec_check, WorkloadEvent.ofValue_name]
  rcases closing with rfl | rfl <;>
  · dsimp only
    rw [exec_bind, exec_lift]
    rfl

end DesktopPool
