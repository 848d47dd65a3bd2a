import DesktopPool.Proofs.Pass.Stepwise
import DesktopPool.Proofs.Reservations.Rebuild

/-! Workload events in the in-memory world. The operations of a pass make no slot and change
neither the assignments nor the workspaces nor the failure switches, so what an event leaves of
its slot outlasts the pass around it. With nothing made to fail, a created or started workload
whose pass returns has its slot listed for the pool with its workload, published through the
pool's workspace and granted to the principal the settings choose, and the next rebuild of the
pool counts the workload when its node runs; a stopped or deleted workload leaves no slot of
its name in any pool. -/
namespace DesktopPool

open Pass Reconcile

theorem Value.str_mem_distinctKeys {xs : List Value} {x : String} (member : Value.str x ∈ xs) :
    Value.str x ∈ Value.distinctKeys xs := by
  unfold Value.distinctKeys
  -- the fold keeps its accumulator and adds each value equal to none kept
  suffices kept : ∀ acc : List Value, Value.str x ∈ acc ∨ Value.str x ∈ xs →
      Value.str x ∈ xs.foldl (fun acc y => if acc.any (·.same y) then acc else acc ++ [y]) acc from
    kept [] (.inr member)
  clear member
  induction xs with
  | nil =>
    intro acc held
    simpa using held
  | cons y ys later =>
    intro acc held
    rw [List.foldl_cons]
    apply later
    rcases held with held | member
    · split
      · exact .inl held
      · exact .inl (List.mem_append_left _ held)
    rcases List.mem_cons.mp member with rfl | deeper
    · split
      · rename_i equal
        obtain ⟨z, member, same⟩ := List.any_eq_true.mp equal
        exact .inl (Value.same_str same ▸ member)
      · exact .inl (List.mem_append_right _ (List.mem_singleton.mpr rfl))
    · exact .inr deeper

theorem Value.str_same_iff {x : String} {v : Value} : (Value.str x).same v = true ↔ v = .str x :=
  ⟨Value.str_same, fun equal => equal ▸ Value.same_str_self x⟩

theorem Value.same_str_iff {x : String} {v : Value} : v.same (.str x) = true ↔ v = .str x :=
  ⟨Value.same_str, fun equal => equal ▸ Value.same_str_self x⟩

namespace Keyed

variable {α : Type}

theorem find?_same_eq_none {xs : List (Value × α)} {k : String}
    (absent : xs.any ((Value.str k).same ·.1) = false) : xs.find? ((Value.str k).same ·.1) = none := by
  rw [List.find?_eq_none]
  intro e member hit
  simp [List.any_eq_false.mp absent e member] at hit

theorem find?_put_str (xs : List (Value × α)) (k : String) (v : α) :
    Keyed.find? Value.same (Keyed.put Value.same xs (.str k) v) (.str k) = some v := by
  unfold Keyed.put
  split
  · rename_i present
    induction xs with
    | nil => cases present
    | cons e rest later =>
      by_cases here : (Value.str k).same e.1 = true
      · simp [Keyed.find?, here]
      · have deeper : rest.any ((Value.str k).same ·.1) = true := by simpa [here] using present
        simpa [Keyed.find?, here] using later deeper
  · rename_i absent
    simp [Keyed.find?, List.find?_append, find?_same_eq_none (by simpa using absent)]

theorem any_str_comm (xs : List (Value × α)) (k : String) :
    xs.any (·.1.same (.str k)) = xs.any ((Value.str k).same ·.1) := by
  induction xs with
  | nil => rfl
  | cons e rest later =>
    rw [List.any_cons, List.any_cons, later]
    congr 1
    rw [Bool.eq_iff_iff, Value.same_str_iff, Value.str_same_iff]

theorem find?_str_of_any {xs : List (Value × α)} {k : String}
    (present : xs.any (·.1.same (.str k)) = true) :
    ∃ a, Keyed.find? Value.same xs (.str k) = some a := by
  rw [any_str_comm] at present
  obtain ⟨e, member, hit⟩ := List.any_eq_true.mp present
  cases found : xs.find? ((Value.str k).same ·.1) with
  | none => exact absurd hit (by simpa using List.find?_eq_none.mp found e member)
  | some e' => exact ⟨e'.2, by simp [Keyed.find?, found]⟩

theorem find?_append_str {xs : List (Value × α)} {k : String}
    (absent : xs.any (·.1.same (.str k)) = false) (v : α) :
    Keyed.find? Value.same (xs ++ [(.str k, v)]) (.str k) = some v := by
  rw [any_str_comm] at absent
  simp [Keyed.find?, List.find?_append, find?_same_eq_none absent]

theorem find?_str_eq_none {xs : List (Value × α)} {k : String}
    (absent : xs.any (·.1.same (.str k)) = false) : Keyed.find? Value.same xs (.str k) = none := by
  rw [any_str_comm] at absent
  simp [Keyed.find?, find?_same_eq_none absent]

end Keyed

namespace World

/-- `w'` is `w` with at most its nodes, host records, record of calls and number of creations
still refused changed, and some slots gone: what every operation of a pass may do. -/
def Trims (w w' : World) : Prop :=
  w' = { w with nodes := w'.nodes, hosts := w'.hosts, log := w'.log, slots := w'.slots,
                fail := { w.fail with creates := w'.fail.creates } } ∧
    ∀ e ∈ w'.slots, ∀ g ∈ e.2, ∃ e₀ ∈ w.slots, g ∈ e₀.2

namespace Trims

variable {w w' w'' : World}

theorem refl (w : World) : Trims w w := ⟨rfl, fun e member _ kept => ⟨e, member, kept⟩⟩

theorem trans (first : Trims w w') (second : Trims w' w'') : Trims w w'' := by
  refine ⟨?_, fun e member g kept => ?_⟩
  · rw [second.1, first.1]
  · obtain ⟨e₁, member₁, kept₁⟩ := second.2 e member g kept
    exact first.2 e₁ member₁ g kept₁

theorem of_touches (touches : Touches w w') : Trims w w' := by
  refine ⟨?_, fun e member g kept => ?_⟩
  · rw [touches]
  · rw [touches] at member
    exact ⟨e, member, kept⟩

theorem assignments (trims : Trims w w') : w'.assignments = w.assignments := by
  rw [trims.1]

theorem workspaces (trims : Trims w w') : w'.workspaces = w.workspaces := by
  rw [trims.1]

theorem switches (trims : Trims w w') :
    w'.fail.createSlots = w.fail.createSlots ∧ w'.fail.workspaces = w.fail.workspaces ∧
      w'.fail.assign = w.fail.assign ∧ w'.fail.assignments = w.fail.assignments ∧
      w'.fail.deleteSlots = w.fail.deleteSlots ∧ w'.fail.listSlots = w.fail.listSlots ∧
      w'.fail.list = w.fail.list := by
  rw [trims.1]
  exact ⟨rfl, rfl, rfl, rfl, rfl, rfl, rfl⟩

theorem unnamed {N : Value} (trims : Trims w w')
    (gone : ∀ e ∈ w.slots, ∀ g ∈ e.2, g.name ≠ N) : ∀ e ∈ w'.slots, ∀ g ∈ e.2, g.name ≠ N := by
  intro e member g kept
  obtain ⟨e₀, member₀, kept₀⟩ := trims.2 e member g kept
  exact gone e₀ member₀ g kept₀

end Trims

theorem still_trims {w w' : World} (same : w' = w) : Trims w w' := same ▸ Trims.refl w

theorem deleteSlot_trims (name : Value) (w : World) : Trims w ((deleteSlot name).run w).2 := by
  simp only [deleteSlot, StateM.run_bind, StateM.run_get, guard]
  split
  · exact Trims.refl w
  · exact Trims.refl w
  · refine ⟨rfl, fun e member g kept => ?_⟩
    obtain ⟨e₀, member₀, rfl⟩ := List.mem_map.mp member
    exact ⟨e₀, member₀, List.mem_of_mem_filter kept⟩

@[simp] theorem setSlots_assignments (w : World) (pool : Value) (gs : List AppGroup) :
    (w.setSlots pool gs).assignments = w.assignments := rfl

@[simp] theorem setSlots_slotsOf (w : World) (p : String) (gs : List AppGroup) :
    (w.setSlots (.str p) gs).slotsOf (.str p) = gs := by
  simp [slotsOf, setSlots, Keyed.find?_put_str]

/-- With slot creation not made to fail, a slot is made for the workload: the pool lists it, and
its name has assignments, those it had or none. -/
theorem createSlot_lists (w : World) (p N : String) (workload : Value)
    (quiet : w.fail.createSlots = []) :
    ∃ g w', (createSlot (.str p) (.str N) workload).run w = (.ok g, w') ∧ g.name = .str N ∧
      g.workloadId = workload ∧ g ∈ w'.slotsOf (.str p) ∧ w'.workspaces = w.workspaces ∧
      w'.fail = w.fail ∧ w'.nodes = w.nodes ∧
      Keyed.find? Value.same w'.assignments (.str N) =
        some ((Keyed.find? Value.same w.assignments (.str N)).getD (.list [])) := by
  simp only [createSlot, StateM.run_bind, StateM.run_get, StateM.run_set, StateM.run_pure, guard,
    quiet, memberOf_str_nil, Value.asKey, Value.isHashable, if_true, setSlots_assignments]
  by_cases present : (w.assignments.any fun e => e.1.same (.str N)) = true
  · simp only [present, if_true]
    refine ⟨_, _, rfl, rfl, rfl, by simp, rfl, rfl, rfl, ?_⟩
    obtain ⟨a, found⟩ := Keyed.find?_str_of_any present
    rw [setSlots_assignments, found]
    rfl
  · simp only [present, Bool.false_eq_true, if_false]
    have absent : (w.assignments.any fun e => e.1.same (.str N)) = false := by simpa using present
    refine ⟨_, _, rfl, rfl, rfl, ?_, rfl, rfl, rfl, ?_⟩
    · show _ ∈ (w.setSlots _ _).slotsOf _
      simp
    · show Keyed.find? Value.same (w.assignments ++ _) _ = _
      rw [Keyed.find?_append_str absent, Keyed.find?_str_eq_none absent]
      rfl

/-- With workspaces not made to fail, publishing a slot lists its name in the workspace. -/
theorem publish_lists (w : World) (W N : String) (quiet : w.fail.workspaces = []) :
    ∃ w', (publish (.str W) (.str N)).run w = (.ok (), w') ∧
      Value.str N ∈ (Keyed.find? Value.same w'.workspaces (.str W)).getD [] ∧ w'.slots = w.slots ∧
      w'.assignments = w.assignments ∧ w'.fail = w.fail ∧ w'.nodes = w.nodes := by
  -- a name already listed is listed as itself, since only it equals the text
  by_cases listed : (Value.str N).within ((Keyed.find? Value.same w.workspaces (.str W)).getD []) = true
  · simp only [publish, StateM.run_bind, StateM.run_get, StateM.run_set, StateM.run_pure, guard,
      quiet, memberOf_str_nil, listed, if_true]
    refine ⟨_, rfl, ?_, rfl, rfl, rfl, rfl⟩
    rw [Keyed.find?_put_str, Option.getD_some]
    obtain ⟨y, member, same⟩ := List.any_eq_true.mp listed
    exact Value.str_same same ▸ member
  · simp only [publish, StateM.run_bind, StateM.run_get, StateM.run_set, StateM.run_pure, guard,
      quiet, memberOf_str_nil, listed, Bool.false_eq_true, if_false]
    refine ⟨_, rfl, ?_, rfl, rfl, rfl, rfl⟩
    rw [Keyed.find?_put_str, Option.getD_some]
    exact List.mem_append_right _ (List.mem_singleton.mpr rfl)

/-- With assignment not made to fail, granting a principal to a name whose assignments are a
list leaves them a list holding the principal, or one equal to it. -/
theorem assign_grants (w : World) (N : String) (principal kind : Value)
    (quiet : w.fail.assign = []) {ys : List Value}
    (listed : (Keyed.find? Value.same w.assignments (.str N)).getD (.list []) = .list ys) :
    ∃ w' zs, (assign (.str N) principal kind).run w = (.ok (), w') ∧
      Keyed.find? Value.same w'.assignments (.str N) = some (.list zs) ∧
      (∃ y ∈ zs, y = principal ∨ y.same principal = true) ∧ w'.slots = w.slots ∧
      w'.workspaces = w.workspaces ∧ w'.fail = w.fail ∧ w'.nodes = w.nodes := by
  simp only [assign, StateM.run_bind, StateM.run_get, guard, quiet, memberOf_str_nil, listed,
    grant, Value.includes]
  by_cases held : (ys.any fun y => y.same principal) = true
  · simp only [held, Outcome.ok_bind, if_true]
    refine ⟨_, ys, rfl, Keyed.find?_put_str _ _ _, ?_, rfl, rfl, rfl, rfl⟩
    obtain ⟨y, member, same⟩ := List.any_eq_true.mp held
    exact ⟨y, member, .inr same⟩
  · simp only [held, Outcome.ok_bind, Bool.false_eq_true, if_false]
    exact ⟨_, ys ++ [principal], rfl, Keyed.find?_put_str _ _ _,
      ⟨principal, List.mem_append_right _ (List.mem_singleton.mpr rfl), .inl rfl⟩, rfl, rfl, rfl, rfl⟩

theorem assignmentsOf_listed (w : World) (N : String) (quiet : w.fail.assignments = []) :
    ((assignmentsOf (.str N)).run w).1 = ((Keyed.find? Value.same w.assignments (.str N)).getD (.list [])).iterate := by
  simp only [assignmentsOf, StateM.run_bind, StateM.run_get, guard, quiet, memberOf_str_nil]
  rfl

theorem listSlots_listed (w : World) (p : String) (quiet : w.fail.listSlots = false) :
    ((listSlots (.str p)).run w).1 = .ok (w.slotsOf (.str p)) := by
  simp only [listSlots, StateM.run_bind, StateM.run_get, quiet, Bool.false_eq_true, if_false]
  rfl

theorem listAll_null (w : World) (quiet : w.fail.list = false) :
    ((listAll .null).run w).1 = .ok w.nodes := by
  simp only [listAll, StateM.run_bind, StateM.run_get, quiet, Bool.false_eq_true, if_false]
  rfl

theorem unpublish_fail (workspace name : Value) (w : World) :
    ((unpublish workspace name).run w).2.fail = w.fail := by
  simp only [unpublish, StateM.run_bind, StateM.run_get, guard]
  split
  · rfl
  · rfl
  · split
    · split <;> rfl
    · rfl

theorem deleteSlot_unnamed (w : World) (N : String) (quiet : w.fail.deleteSlots = []) :
    ∀ e ∈ ((deleteSlot (.str N)).run w).2.slots, ∀ g ∈ e.2, g.name ≠ .str N := by
  simp only [deleteSlot, StateM.run_bind, StateM.run_get, guard, quiet, memberOf_str_nil]
  intro e member g kept named
  obtain ⟨e₀, -, rfl⟩ := List.mem_map.mp member
  have unequal := (List.mem_filter.mp kept).2
  rw [named, Value.same_str_self] at unequal
  cases unequal

end World

namespace Scene

variable {α : Type}

theorem hooked_failure (method : String) (kind : Kind) (op : StateM World (Outcome α)) (sc : Scene) :
    ((hooked method kind op).run sc).2.failure = sc.failure := by
  rcases planned : sc.failure with _ | f
  · simp only [hooked, StateM.run_bind, StateM.run_get, StateM.run_set, StateM.run_pure, planned,
      plain_run]
  · by_cases fires : (f.method == method && f.nth == (bump sc.calls method).2) = true
    · simp only [hooked, StateM.run_bind, StateM.run_get, StateM.run_set, StateM.run_pure, planned,
        fires, if_true]
    · simp only [hooked, StateM.run_bind, StateM.run_get, StateM.run_set, StateM.run_pure, planned,
        fires, plain_run, Bool.false_eq_true, if_false]

theorem hooked_runs (method : String) (kind : Kind) (op : StateM World (Outcome α)) {sc : Scene}
    (unhooked : sc.failure = none) :
    ((hooked method kind op).run sc).1 = (op.run sc.world).1 ∧
      ((hooked method kind op).run sc).2.world = (op.run sc.world).2 := by
  simp only [hooked, StateM.run_bind, StateM.run_get, StateM.run_set, StateM.run_pure, unhooked,
    plain_run]
  simp

def slotFrame : Frame Scene where
  rel p q := q.2.failure = p.2.failure ∧ World.Trims p.2.world q.2.world
  refl _ := ⟨rfl, World.Trims.refl _⟩
  trans _ _ _ first second := ⟨second.1.trans first.1, first.2.trans second.2⟩

theorem slotFrame_blind (b₁ b₂ b₃ b₄ : Books) (t t' : Scene)
    (within : slotFrame.rel (b₁, t) (b₂, t')) : slotFrame.rel (b₃, t) (b₄, t') :=
  within

theorem plain_trims {op : StateM World α} (trims : ∀ w, World.Trims w (op.run w).2) :
    slotFrame.Op (plain op) := by
  intro b sc
  exact ⟨rfl, by rw [plain_run]; exact trims sc.world⟩

theorem hooked_trims {method : String} {kind : Kind} {op : StateM World (Outcome α)}
    (trims : ∀ w, World.Trims w (op.run w).2) : slotFrame.Op (hooked method kind op) := by
  intro b sc
  refine ⟨hooked_failure method kind op sc, ?_⟩
  obtain ⟨-, ⟨_, -, same⟩ | ⟨-, ran⟩⟩ := hooked_cases method kind op sc
  · show World.Trims sc.world ((hooked method kind op).run sc).2.world
    rw [same]
    exact World.Trims.refl _
  · show World.Trims sc.world ((hooked method kind op).run sc).2.world
    rw [ran]
    exact trims sc.world

variable (env : Env) (watch : Bool)

theorem surveyWithin_slots : SurveyWithin slotFrame (services env watch) where
  cancelled := fun _ _ => slotFrame.refl _
  listSlots := fun _ => hooked_trims fun w => World.still_trims (World.listSlots_still _ w)
  listAll := fun _ => hooked_trims fun w => World.still_trims (World.listAll_still _ w)
  assignments := fun _ => plain_trims fun w => World.still_trims (World.assignmentsOf_still _ w)
  deleteSlot := fun name => plain_trims (World.deleteSlot_trims name)
  listHosts := fun _ => hooked_trims fun w => World.still_trims (World.listHosts_still _ w)
  get := fun _ _ => plain_trims fun w => World.still_trims (World.lookup_still _ _ w)

theorem convergeWithin_slots : ConvergeWithin slotFrame (services env watch) where
  cancelled := fun _ _ => slotFrame.refl _
  deleteHost := fun h => plain_trims fun w => .of_touches (World.deleteHost_touches h w)
  delete := fun id => plain_trims fun w => .of_touches (World.delete_touches id w)
  start := fun id => hooked_trims fun w => .of_touches (World.start_touches id w)
  waitReady := fun pool id t => hooked_trims fun w => .of_touches (World.waitReady_touches pool id t w)
  fresh := fun _ _ => ⟨rfl, World.Trims.refl _⟩
  create := fun spec => hooked_trims fun w => .of_touches (World.create_touches spec w)
  registrationToken := fun pool =>
    hooked_trims fun w => .of_touches (World.registrationToken_touches pool w)
  runScript := fun id script t poll =>
    hooked_trims fun w => .of_touches (World.runScript_touches id script t poll w)
  listAll := fun _ => hooked_trims fun w => World.still_trims (World.listAll_still _ w)

/-- A pass, however it ends, keeps the planned failure and trims the world. -/
theorem ensureCapacity_trims (s : Settings) (pool : Value) (b : Books) (sc : Scene) :
    (exec (ensureCapacity (services env watch) s pool) b sc).state.failure = sc.failure ∧
      World.Trims sc.world (exec (ensureCapacity (services env watch) s pool) b sc).state.world :=
  ensureCapacity_keeps_blind (services env watch) (surveyWithin_slots env watch)
    (convergeWithin_slots env watch) slotFrame_blind s pool b sc

theorem exec_call_plain {β : Type} (op : StateM World (Outcome β)) (b : Books) (sc : Scene) :
    exec (Pass.call (plain op)) b sc = ⟨(op.run sc.world).1, b, { sc with world := (op.run sc.world).2 }⟩ :=
  rfl

/-- A slot step over a world operation that answers ends as the operation leaves the world. -/
theorem exec_stepOf_plain {β : Type} (slot step : String) {op : StateM World (Outcome β)} {a : β}
    {w' : World} (b : Books) {sc : Scene} (ran : op.run sc.world = (.ok a, w')) :
    exec (Events.stepOf slot step (Pass.call (plain op))) b sc = ⟨.ok a, b, { sc with world := w' }⟩ := by
  rw [Events.exec_stepOf, exec_call_plain, ran]
  rfl

/-- In a world that lets slots be made, published and granted, and keeps assignments as lists,
opening the slot of a text workload succeeds and changes only the world: the pool lists the
slot with its workload, the pool's workspace lists its name, and its assignments are a list
that holds the principal the settings choose. -/
theorem openSlot_opens (s : Settings) (p x : String) (u : Value) (b : Books) {sc : Scene}
    (quiet : sc.world.fail.createSlots = [] ∧ sc.world.fail.workspaces = [] ∧ sc.world.fail.assign = [])
    (lists : ∀ a, Keyed.find? Value.same sc.world.assignments (.str (s.slotName (.str x))) = some a →
      ∃ ys, a = .list ys) :
    ∃ g w', exec (Events.openSlot (services env watch) s (.str p) (.str x) u) b sc =
        ⟨.ok g, b, { sc with world := w' }⟩ ∧ w'.fail = sc.world.fail ∧ w'.nodes = sc.world.nodes ∧
      (∃ g ∈ w'.slotsOf (.str p), g.name = .str (s.slotName (.str x)) ∧ g.workloadId = .str x) ∧
      Value.str (s.slotName (.str x)) ∈
        (Keyed.find? Value.same w'.workspaces (.str (s.workspaceName (.str p)))).getD [] ∧
      ∃ zs, Keyed.find? Value.same w'.assignments (.str (s.slotName (.str x))) = some (.list zs) ∧
        ∀ principal kind, Events.grantFor s u = some (principal, kind) →
          ∃ y ∈ zs, y = principal ∨ y.same principal = true := by
  obtain ⟨g, w₁, created, named, workload, listed, workspaces₁, fail₁, nodes₁, assigned₁⟩ :=
    World.createSlot_lists sc.world p (s.slotName (.str x)) (.str x) quiet.1
  obtain ⟨w₂, published, inWorkspace, slots₂, assignments₂, fail₂, nodes₂⟩ :=
    World.publish_lists w₁ (s.workspaceName (.str p)) (s.slotName (.str x)) (fail₁ ▸ quiet.2.1)
  obtain ⟨ys, entry⟩ : ∃ ys, Keyed.find? Value.same w₂.assignments (.str (s.slotName (.str x))) =
      some (.list ys) := by
    rw [assignments₂, assigned₁]
    cases found : Keyed.find? Value.same sc.world.assignments (.str (s.slotName (.str x))) with
    | none => exact ⟨[], rfl⟩
    | some a =>
      obtain ⟨ys, rfl⟩ := lists a found
      exact ⟨ys, rfl⟩
  have made : exec (Events.stepOf (s.slotName (.str x)) "create_app_group"
      (Pass.call ((services env watch).directory.createSlot (.str p) (.str (s.slotName (.str x)))
        (.str x)))) b sc = ⟨.ok g, b, { sc with world := w₁ }⟩ :=
    exec_stepOf_plain _ _ b created
  have shown : exec (Events.stepOf (s.slotName (.str x)) "add_to_workspace"
      (Pass.call ((services env watch).directory.publish (.str (s.workspaceName (.str p)))
        (.str (s.slotName (.str x)))))) b { sc with world := w₁ } =
      ⟨.ok (), b, { sc with world := w₂ }⟩ :=
    exec_stepOf_plain _ _ b published
  have kept : w₂.slotsOf (.str p) = w₁.slotsOf (.str p) := by
    rw [World.slotsOf, World.slotsOf, slots₂]
  unfold Events.openSlot
  rw [exec_bind_ok made, exec_bind_ok shown]
  cases grant : Events.grantFor s u with
  | none =>
    exact ⟨g, w₂, rfl, fail₂.trans fail₁, nodes₂.trans nodes₁, ⟨g, kept ▸ listed, named, workload⟩,
      inWorkspace, ys, entry, fun _ _ chosen => by cases chosen⟩
  | some choice =>
    obtain ⟨principal, kind⟩ := choice
    obtain ⟨w₃, zs, assigned, found, holds, slots₃, workspaces₃, fail₃, nodes₃⟩ :=
      World.assign_grants w₂ (s.slotName (.str x)) principal (.str kind)
        (fail₂.trans fail₁ ▸ quiet.2.2) (by rw [entry]; rfl)
    have granted : exec (Events.stepOf (s.slotName (.str x)) "assign_principal"
        (Pass.call ((services env watch).directory.assign (.str (s.slotName (.str x))) principal
          (.str kind)))) b { sc with world := w₂ } = ⟨.ok (), b, { sc with world := w₃ }⟩ := by
      show exec (Events.stepOf _ _ (Pass.call (plain (World.assign (.str (s.slotName (.str x)))
        principal (.str kind))))) b { sc with world := w₂ } = _
      exact exec_stepOf_plain _ _ b assigned
    refine ⟨g, w₃, by rw [exec_bind_ok granted]; rfl, fail₃.trans (fail₂.trans fail₁),
      nodes₃.trans (nodes₂.trans nodes₁), ⟨g, ?_, named, workload⟩, workspaces₃ ▸ inWorkspace, zs,
      found, fun principal' kind' chosen => ?_⟩
    · rw [World.slotsOf, slots₃, ← World.slotsOf, kept]
      exact listed
    · obtain ⟨rfl, -⟩ := Prod.mk.inj (Option.some.inj chosen)
      exact holds

theorem validate_counts (nodes : List ComputeNode) {g : AppGroup} {x N : String} (named : x ≠ "")
    (name : g.name = .str N) (workload : g.workloadId = .str x) {n : ComputeNode}
    (node : Reservations.nodeFor nodes (.str x) = some n) (running : n.isRunning = true)
    (b : Books) {t : Scene} (asks : t.world.fail.assignments = []) {zs : List Value}
    (found : Keyed.find? Value.same t.world.assignments (.str N) = some (.list zs))
    (someone : zs ≠ []) :
    (exec (Reservations.validate (services env watch) nodes g) b t).outcome = .ok .valid := by
  have truthy : g.workloadId.truthy = true := by
    rw [workload]
    simpa [Value.truthy] using named
  have listed : ((services env watch).directory.assignments g.name).run t = (.ok zs, t) := by
    show (plain (World.assignmentsOf g.name)).run t = _
    rw [name, plain_run, World.assignmentsOf_still, World.assignmentsOf_listed t.world N asks, found]
    rfl
  unfold Reservations.validate
  simp only [truthy, Bool.not_true, Bool.false_eq_true, if_false]
  rw [exec_bind_ok (by rw [exec_check, workload, Reservations.lookup_hashable rfl, node])]
  simp only [running, Bool.not_true, Bool.false_eq_true, if_false]
  rw [exec_bind_ok (by rw [exec_lift, listed])]
  cases zs with
  | nil => exact absurd rfl someone
  | cons z rest => rfl

/-- With no planned failure and neither the rebuild's listings nor its assignment queries made
to fail, a rebuild of a pool counts a text workload that a slot of the pool names, when every
node id is a key, the workload's node runs, and the slot's assignments hold someone. -/
theorem rebuild_counts (p : String) {x N : String} (named : x ≠ "") (b : Books) {t : Scene}
    (unhooked : t.failure = none)
    (listing : t.world.fail.listSlots = false ∧ t.world.fail.list = false ∧
      t.world.fail.assignments = [])
    {g : AppGroup} (slotted : g ∈ t.world.slotsOf (.str p)) (name : g.name = .str N)
    (workload : g.workloadId = .str x) {zs : List Value}
    (found : Keyed.find? Value.same t.world.assignments (.str N) = some (.list zs))
    (someone : zs ≠ []) (keyed : ∀ n ∈ t.world.nodes, n.id.isHashable = true) {n : ComputeNode}
    (node : Reservations.nodeFor t.world.nodes (.str x) = some n) (running : n.isRunning = true) :
    ∃ ids, (exec (Reservations.rebuild (services env watch) (.str p)) b t).outcome = .ok ids ∧
      Value.str x ∈ ids := by
  obtain ⟨slotsAnswer, slotsWorld⟩ := hooked_runs "list_app_groups" .directory
    (World.listSlots (.str p)) unhooked
  set t₁ := ((hooked "list_app_groups" .directory (World.listSlots (.str p))).run t).2 with t₁_def
  have world₁ : t₁.world = t.world := by rw [slotsWorld, World.listSlots_still]
  have unhooked₁ : t₁.failure = none := (hooked_failure _ _ _ t).trans unhooked
  obtain ⟨nodesAnswer, nodesWorld⟩ := hooked_runs "list_all" .compute (World.listAll .null) unhooked₁
  set t₂ := ((hooked "list_all" .compute (World.listAll .null)).run t₁).2 with t₂_def
  have world₂ : t₂.world = t.world := by rw [nodesWorld, World.listAll_still, world₁]
  have slotsCalled : exec (Pass.call ((services env watch).directory.listSlots (.str p))) b t =
      ⟨.ok (t.world.slotsOf (.str p)), b, t₁⟩ := by
    rw [exec_call]
    show (⟨((hooked "list_app_groups" .directory (World.listSlots (.str p))).run t).1, b, t₁⟩ :
      Ending Scene _) = _
    rw [slotsAnswer, World.listSlots_listed t.world p listing.1]
  have nodesCalled : exec (Pass.call ((services env watch).compute.listAll .null)) b t₁ =
      ⟨.ok t.world.nodes, b, t₂⟩ := by
    rw [exec_call]
    show (⟨((hooked "list_all" .compute (World.listAll .null)).run t₁).1, b, t₂⟩ :
      Ending Scene _) = _
    rw [nodesAnswer, world₁, World.listAll_null t.world listing.2.1]
  unfold Reservations.rebuild
  rw [exec_bind_ok (by rw [exec_tryCatch, slotsCalled]),
    exec_bind_ok (by rw [exec_tryCatch, exec_bind_ok nodesCalled, exec_check,
      Reservations.inventory_keyed keyed])]
  -- judging the slots keeps the assignments and their switch, so the slot is judged valid
  have keeps := validate_keeps (surveyWithin_slots env watch) t.world.nodes
  have judged : ∀ a b' t', (t'.world.fail.assignments = [] ∧
      Keyed.find? Value.same t'.world.assignments (.str N) = some (.list zs)) →
      (exec (Reservations.validate (services env watch) t.world.nodes a) b' t').state.world.fail.assignments = [] ∧
      Keyed.find? Value.same
        (exec (Reservations.validate (services env watch) t.world.nodes a) b' t').state.world.assignments
        (.str N) = some (.list zs) := by
    intro a b' t' ⟨asks, held⟩
    have trims := (keeps a b' t').2
    exact ⟨trims.switches.2.2.2.1.trans asks, by rw [trims.assignments, held]⟩
  obtain ⟨outcomes, fanned, member⟩ := exec_fanOut_mem (Reservations.validate (services env watch) t.world.nodes)
    judged (fun b' t' ⟨asks, held⟩ => validate_counts env watch t.world.nodes named name workload node
      running b' asks held someone) (world₂ ▸ slotted) b
    (show t₂.world.fail.assignments = [] ∧ _ from ⟨by rw [world₂]; exact listing.2.2, by rw [world₂]; exact found⟩)
  rcases ran : exec (Pass.fanOut (Reservations.validate (services env watch) t.world.nodes)
    (t.world.slotsOf (.str p))) b t₂ with ⟨o, b₃, t₃⟩
  rw [world₂, ran] at fanned
  cases fanned
  rw [exec_bind_ok ran]
  refine ⟨_, rfl, Value.str_mem_distinctKeys (List.mem_filterMap.mpr ⟨(g, .ok .valid), member, ?_⟩)⟩
  simp [workload]

/-- A stopped or deleted workload, with slot deletion not made to fail, leaves no slot of its
name in any pool, however the pass after the removal ends. -/
theorem handleEvent_closes (s : Settings) (p x : String) (u : Value) {sc : Scene}
    (quiet : sc.world.fail.deleteSlots = []) {ev : WorkloadEvent}
    (closing : ev = .stopped ∨ ev = .deleted) (b : Books) :
    ∀ e ∈ (exec (handleEvent (services env watch) s (.str ev.name) (.str p) (.str x) u) b sc).state.world.slots,
      ∀ g ∈ e.2, g.name ≠ .str (s.slotName (.str x)) := by
  rw [exec_handleEvent_closing _ s closing]
  set unpublished := ((services env watch).directory.unpublish (.str (s.workspaceName (.str p)))
    (.str (s.slotName (.str x)))).run sc
  have kept : unpublished.2.world.fail = sc.world.fail :=
    World.unpublish_fail (.str (s.workspaceName (.str p))) (.str (s.slotName (.str x))) sc.world
  have gone := World.deleteSlot_unnamed unpublished.2.world (s.slotName (.str x)) (kept ▸ quiet)
  exact (ensureCapacity_trims env watch s (.str p) b _).2.unnamed gone

/-- A created or started workload whose pass returns, in a scene with no planned failure and
none injected into the world, answers with the pass's result. Its slot is then listed for the
pool with the workload, published through the pool's workspace and granted to the principal
the settings choose, and the next rebuild of the pool counts the workload when a principal was
granted, every node id is a key and the workload's node runs. -/
theorem handleEvent_opens (s : Settings) (p x : String) (u : Value) (named : x ≠ "") {sc : Scene}
    (unhooked : sc.failure = none) (unfailing : sc.world.fail = {})
    (lists : ∀ a, Keyed.find? Value.same sc.world.assignments (.str (s.slotName (.str x))) = some a →
      ∃ ys, a = .list ys)
    {ev : WorkloadEvent} (opening : ev = .created ∨ ev = .started) (b : Books) {r : ReconcileResult}
    (returned : (exec (ensureCapacity (services env watch) s (.str p)) b sc).outcome = .ok r) :
    let after := exec (handleEvent (services env watch) s (.str ev.name) (.str p) (.str x) u) b sc
    after.outcome = .ok r ∧
      (∃ g ∈ after.state.world.slotsOf (.str p),
        g.name = .str (s.slotName (.str x)) ∧ g.workloadId = .str x) ∧
      Value.str (s.slotName (.str x)) ∈
        (Keyed.find? Value.same after.state.world.workspaces (.str (s.workspaceName (.str p)))).getD [] ∧
      (∃ zs, ((World.assignmentsOf (.str (s.slotName (.str x)))).run after.state.world).1 = .ok zs ∧
        ∀ principal kind, Events.grantFor s u = some (principal, kind) →
          ∃ y ∈ zs, y = principal ∨ y.same principal = true) ∧
      ((Events.grantFor s u).isSome = true → (∀ n ∈ after.state.world.nodes, n.id.isHashable = true) →
        ∀ n, Reservations.nodeFor after.state.world.nodes (.str x) = some n → n.isRunning = true →
        ∀ b', ∃ ids, (exec (Reservations.rebuild (services env watch) (.str p)) b' after.state).outcome =
          .ok ids ∧ Value.str x ∈ ids) := by
  intro after
  obtain ⟨failure, trims⟩ := ensureCapacity_trims env watch s (.str p) b sc
  rcases ran : exec (ensureCapacity (services env watch) s (.str p)) b sc with ⟨o, b', t'⟩
  rw [ran] at returned failure trims
  cases returned
  obtain ⟨creating, publishing, assigning, asking, -, slotListing, listing⟩ := trims.switches
  rw [unfailing] at creating publishing assigning asking slotListing listing
  obtain ⟨g, w', opened, fail', -, listed, published, zs, found, holds⟩ :=
    openSlot_opens env watch s p x u b' ⟨creating, publishing, assigning⟩
      (by rw [trims.assignments]; exact lists)
  have answered : after = ⟨.ok r, b', { t' with world := w' }⟩ := by
    show exec (handleEvent _ s _ _ _ u) b sc = _
    rw [exec_handleEvent_opening _ s opening, ran]
    dsimp only
    rw [opened]
    rfl
  rw [answered]
  refine ⟨rfl, listed, published, ⟨zs, ?_, holds⟩, ?_⟩
  · rw [World.assignmentsOf_listed w' _ (by rw [fail']; exact asking), found]
    rfl
  · intro chosen keyed n node running b''
    obtain ⟨⟨principal, kind⟩, grant⟩ := Option.isSome_iff_exists.mp chosen
    obtain ⟨y, member, -⟩ := holds principal kind grant
    obtain ⟨slot, slotted, slotName, workload⟩ := listed
    exact rebuild_counts env watch p named b'' (failure.trans unhooked)
      ⟨by rw [fail']; exact slotListing, by rw [fail']; exact listing, by rw [fail']; exact asking⟩
      slotted slotName workload found (List.ne_nil_of_mem member) keyed node running

end Scene

/-- The surplus scene with a slot of pool `HP` held for the workload on node `shvm-nap0001`. -/
def slottedScene : Scene :=
  { world := { surplusScene.world with
      slots := [(.str "HP", [{ name := .str ((fixedSettings 1).slotName (.str "shvm-nap0001")),
                               workloadId := .str "shvm-nap0001" }])] } }

/-- Workload events order their steps and open or close the slot. Whatever the services answer,
an event that names none of the four is refused before any call; a created or started workload
gets a pass first and its slot only when the pass returns, the slot's steps running in order and
the first to fail naming itself, and the pass's result answers the event; a stopped or deleted
workload loses its slot, failures ignored, and then gets a pass, which answers the event. In the
in-memory world with no failure planned or injected, for a workload named by non-empty text,
the event leaves the slot where the next rebuild finds it: a created or started workload whose
pass returns has its slot listed for the pool with the workload, published through the pool's
workspace and granted to the principal the settings choose, and the next rebuild counts the
workload when a principal was granted, every node id is a key and its node runs; a stopped or
deleted workload leaves no slot of its name in any pool. -/
theorem workload_events_order_slot_steps (s : Settings) (u : Value) :
    (∀ {σ : Type} (svc : Services (StateM σ)) (pool w : Value),
      (∀ event b t, (∀ ev : WorkloadEvent, event ≠ .str ev.name) →
        ∃ f, f.kind = .badValue ∧ exec (handleEvent svc s event pool w u) b t = ⟨.error f, b, t⟩) ∧
      (∀ (ev : WorkloadEvent) b t, (ev = .created ∨ ev = .started) →
        exec (handleEvent svc s (.str ev.name) pool w u) b t =
          match exec (ensureCapacity svc s pool) b t with
          | ⟨.error e, b', t'⟩ => ⟨.error e, b', t'⟩
          | ⟨.ok r, b', t'⟩ =>
            ⟨(exec (Events.openSlot svc s pool w u) b' t').outcome.map (fun _ => r),
              (exec (Events.openSlot svc s pool w u) b' t').books,
              (exec (Events.openSlot svc s pool w u) b' t').state⟩) ∧
      (∀ b t, exec (Events.openSlot svc s pool w u) b t =
        match (svc.directory.createSlot pool (.str (s.slotName w)) w).run t with
        | (.error e, t₁) => ⟨.error (Events.slotFault (s.slotName w) "create_app_group" e), b, t₁⟩
        | (.ok slot, t₁) =>
          match (svc.directory.publish (.str (s.workspaceName pool)) (.str (s.slotName w))).run t₁ with
          | (.error e, t₂) => ⟨.error (Events.slotFault (s.slotName w) "add_to_workspace" e), b, t₂⟩
          | (.ok _, t₂) =>
            if u.truthy then
              match (svc.directory.assign (.str (s.slotName w)) u (.str "User")).run t₂ with
              | (.error e, t₃) =>
                ⟨.error (Events.slotFault (s.slotName w) "assign_principal" e), b, t₃⟩
              | (.ok _, t₃) => ⟨.ok slot, b, t₃⟩
            else if s.usersGroupId.truthy then
              match (svc.directory.assign (.str (s.slotName w)) s.usersGroupId (.str "Group")).run
                  t₂ with
              | (.error e, t₃) =>
                ⟨.error (Events.slotFault (s.slotName w) "assign_principal" e), b, t₃⟩
              | (.ok _, t₃) => ⟨.ok slot, b, t₃⟩
            else ⟨.ok slot, b, t₂⟩) ∧
      ∀ (ev : WorkloadEvent) b t, (ev = .stopped ∨ ev = .deleted) →
        exec (handleEvent svc s (.str ev.name) pool w u) b t =
          exec (ensureCapacity svc s pool) b
            ((svc.directory.deleteSlot (.str (s.slotName w))).run
              ((svc.directory.unpublish (.str (s.workspaceName pool)) (.str (s.slotName w))).run t).2).2) ∧
    ∀ (env : Env) (watch : Bool) (p x : String) (sc : Scene) (b : Books), x ≠ "" →
      sc.failure = none → sc.world.fail = {} →
      (∀ a, Keyed.find? Value.same sc.world.assignments (.str (s.slotName (.str x))) = some a →
        ∃ ys, a = .list ys) →
      (∀ (ev : WorkloadEvent) r, (ev = .created ∨ ev = .started) →
        (exec (ensureCapacity (Scene.services env watch) s (.str p)) b sc).outcome = .ok r →
        let after := exec (handleEvent (Scene.services env watch) s (.str ev.name) (.str p) (.str x) u) b sc
        after.outcome = .ok r ∧
          (∃ g ∈ after.state.world.slotsOf (.str p),
            g.name = .str (s.slotName (.str x)) ∧ g.workloadId = .str x) ∧
          Value.str (s.slotName (.str x)) ∈
            (Keyed.find? Value.same after.state.world.workspaces (.str (s.workspaceName (.str p)))).getD [] ∧
          (∃ zs, ((World.assignmentsOf (.str (s.slotName (.str x)))).run after.state.world).1 = .ok zs ∧
            ∀ principal kind, Events.grantFor s u = some (principal, kind) →
              ∃ y ∈ zs, y = principal ∨ y.same principal = true) ∧
          ((Events.grantFor s u).isSome = true →
            (∀ n ∈ after.state.world.nodes, n.id.isHashable = true) →
            ∀ n, Reservations.nodeFor after.state.world.nodes (.str x) = some n → n.isRunning = true →
            ∀ b', ∃ ids, (exec (Reservations.rebuild (Scene.services env watch) (.str p)) b'
              after.state).outcome = .ok ids ∧ Value.str x ∈ ids)) ∧
      ∀ ev : WorkloadEvent, (ev = .stopped ∨ ev = .deleted) →
        ∀ e ∈ (exec (handleEvent (Scene.services env watch) s (.str ev.name) (.str p) (.str x) u) b
          sc).state.world.slots, ∀ g ∈ e.2, g.name ≠ .str (s.slotName (.str x)) :=
  ⟨fun svc pool w =>
    ⟨fun _ b t unnamed => exec_handleEvent_unnamed svc s unnamed pool w u b t,
      fun _ b t opening => exec_handleEvent_opening svc s opening pool w u b t,
      Events.exec_openSlot svc s pool w u,
      fun _ b t closing => exec_handleEvent_closing svc s closing pool w u b t⟩,
    fun env watch p x _ b named unhooked unfailing lists =>
      ⟨fun _ _ opening returned =>
        Scene.handleEvent_opens env watch s p x u named unhooked unfailing lists opening b returned,
        fun _ closing => Scene.handleEvent_closes env watch s p x u (by rw [unfailing]) closing b⟩⟩

/-- On the surplus scene the workload on the host the pass resumes is created: it gets a slot
of pool `HP` published through the pool's workspace, and the next rebuild counts it. On the
slotted scene the same workload stops and its slot goes. A restart is refused untouched. -/
theorem nap_workload_slotted_then_unslotted :
    let svc := Scene.services default false
    let s := fixedSettings 1
    let event (ev : Value) := handleEvent svc s ev (.str "HP") (.str "shvm-nap0001") (.str "user-1")
    let created := exec (event (.str WorkloadEvent.created.name)) {} surplusScene
    let stopped := exec (event (.str WorkloadEvent.stopped.name)) {} slottedScene
    (∃ g ∈ created.state.world.slotsOf (.str "HP"), g.workloadId = .str "shvm-nap0001") ∧
    Value.str (s.slotName (.str "shvm-nap0001")) ∈
      (Keyed.find? Value.same created.state.world.workspaces (.str (s.workspaceName (.str "HP")))).getD [] ∧
    (∃ ids, (exec (Reservations.rebuild svc (.str "HP")) {} created.state).outcome = .ok ids ∧
      Value.str "shvm-nap0001" ∈ ids) ∧
    (∃ g ∈ slottedScene.world.slotsOf (.str "HP"), g.name = .str (s.slotName (.str "shvm-nap0001"))) ∧
    (∀ e ∈ stopped.state.world.slots, ∀ g ∈ e.2, g.name ≠ .str (s.slotName (.str "shvm-nap0001"))) ∧
    ∃ f, f.kind = .badValue ∧ exec (event (.str "restarted")) {} surplusScene = ⟨.error f, {}, surplusScene⟩ := by
  -- the runs below are written exactly as the theorem instantiates them, so that checking the
  -- proof compares terms and never evaluates a run
  dsimp only
  have steps := workload_events_order_slot_steps (fixedSettings 1) (.str "user-1")
  have unnamed : ∀ ev : WorkloadEvent, Value.str "restarted" ≠ .str ev.name := by
    intro ev
    cases ev <;> simp [WorkloadEvent.name]
  obtain ⟨r, returned⟩ : ∃ r, (exec (ensureCapacity (Scene.services default false) (fixedSettings 1)
      (.str "HP")) {} surplusScene).outcome = .ok r := Outcome.ok_of_isOk (by decide +kernel)
  have inWorld := steps.2 default false "HP" "shvm-nap0001"
  obtain ⟨_, listed, published, _, counted⟩ := (inWorld surplusScene {} (by decide) rfl rfl
    (fun _ found => by cases found)).1 .created r (.inl rfl) returned
  have resumed :
      let nodes := (exec (handleEvent (Scene.services default false) (fixedSettings 1)
        (.str WorkloadEvent.created.name) (.str "HP") (.str "shvm-nap0001") (.str "user-1")) {}
        surplusScene).state.world.nodes
      (nodes.all (·.id.isHashable) &&
        (Reservations.nodeFor nodes (.str "shvm-nap0001")).any (·.isRunning)) = true := by
    decide +kernel
  simp only [Bool.and_eq_true, List.all_eq_true, Option.any_eq_true] at resumed
  obtain ⟨hashable, n, node, running⟩ := resumed
  obtain ⟨g, member, _, workload⟩ := listed
  refine ⟨⟨g, member, workload⟩, published, counted rfl hashable n node running {}, ?_,
    (inWorld slottedScene {} (by decide) rfl rfl (fun _ found => by cases found)).2 .stopped (.inl rfl),
    (steps.1 (Scene.services default false) (.str "HP") (.str "shvm-nap0001")).1 _ {} surplusScene
      unnamed⟩
  exact ⟨_, List.mem_singleton_self _, rfl⟩

end DesktopPool
