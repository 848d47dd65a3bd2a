import DesktopPool.Proofs.Convergence.Closing
import DesktopPool.Proofs.Reservations.Rebuild
import DesktopPool.Proofs.Capacity.Target

/-! What a pass learns in a calm world before it changes any host. The rebuild judges every slot
of the pool against the node inventory and the assignments as they stand: it grants the
workloads of the valid slots and deletes the slots whose workload is missing or stopped or that
have no assignment. Judged again against any nodes, the slots it kept grant no workload it did
not, so with text ids the count of distinct reservations only shrinks from one pass to the next.
The assessment lists the pool's records, classifies them as the world stands, and plans for the
clamped exact ceiling of the reservations. -/
namespace DesktopPool

open Pass Reconcile Reservations

def Verdict.drops : Verdict → Bool
  | .workloadMissing | .workloadNotRunning | .noAssignments => true
  | _ => false

/-- The verdict on a slot whose workload runs, by its assignments in a calm directory holding
`assigned`. -/
def Verdict.onAssignments (assigned : List (Value × Value)) (slot : AppGroup) : Verdict :=
  match ((Keyed.find? Value.same assigned slot.name).getD (.list [])).iterate with
  | .error _ => .assignmentsUnavailable
  | .ok granted => if granted.isEmpty then .noAssignments else .valid

/-- The verdict on a slot in a calm directory whose assignments are `assigned`, against the
nodes `nodes`. -/
def Verdict.of (assigned : List (Value × Value)) (nodes : List ComputeNode) (slot : AppGroup) :
    Verdict :=
  if !slot.workloadId.truthy then .unparseable
  else match nodeFor nodes slot.workloadId with
    | none => .workloadMissing
    | some node => if !node.isRunning then .workloadNotRunning else Verdict.onAssignments assigned slot

def Verdict.dropped (assigned : List (Value × Value)) (nodes : List ComputeNode)
    (slots : List AppGroup) : List AppGroup :=
  slots.filter fun g => (Verdict.of assigned nodes g).drops

def Verdict.granted (assigned : List (Value × Value)) (nodes : List ComputeNode)
    (slots : List AppGroup) : List Value :=
  (slots.filter fun g => Verdict.of assigned nodes g = .valid).map (·.workloadId)

theorem Verdict.filterMap_granted {f : AppGroup × Outcome Verdict → Option Value}
    (picks : ∀ slot o, f (slot, o) = if grants o then some slot.workloadId else none)
    (assigned : List (Value × Value)) (nodes : List ComputeNode) (slots : List AppGroup) :
    (slots.map fun g => (g, .ok (Verdict.of assigned nodes g))).filterMap f =
      Verdict.granted assigned nodes slots := by
  induction slots with
  | nil => rfl
  | cons g slots later =>
    rw [List.map_cons, List.filterMap_cons, picks, later]
    unfold Verdict.granted
    cases verdict : Verdict.of assigned nodes g <;> simp [grants, verdict]

namespace Value

theorem foldl_distinct_texts (xs ys : List String) (nodup : ys.Nodup) :
    ∃ zs : List String, (xs.map Value.str).foldl (fun acc x => if acc.any (·.same x) then acc else acc ++ [x])
        (ys.map Value.str) = zs.map Value.str ∧ zs.Nodup ∧ ∀ y, y ∈ zs ↔ y ∈ ys ∨ y ∈ xs := by
  induction xs generalizing ys with
  | nil => exact ⟨ys, rfl, nodup, by simp⟩
  | cons x xs later =>
    have seen : (ys.map Value.str).any (·.same (.str x)) = decide (x ∈ ys) := by
      rw [Bool.eq_iff_iff, List.any_eq_true, decide_eq_true_iff]
      simp [Value.same]
    by_cases old : x ∈ ys
    · obtain ⟨zs, folded, distinct, members⟩ := later ys nodup
      refine ⟨zs, ?_, distinct, fun y => ?_⟩
      · rw [List.map_cons, List.foldl_cons, seen, decide_eq_true old, if_pos rfl, folded]
      · rw [members, List.mem_cons]
        constructor
        · rintro (inYs | inXs)
          · exact .inl inYs
          · exact .inr (.inr inXs)
        · rintro (inYs | rfl | inXs)
          · exact .inl inYs
          · exact .inl old
          · exact .inr inXs
    · obtain ⟨zs, folded, distinct, members⟩ := later (ys ++ [x]) (List.nodup_append.mpr
        ⟨nodup, by simp, fun y member z single same =>
          old (by rw [← List.mem_singleton.mp single, ← same]; exact member)⟩)
      refine ⟨zs, ?_, distinct, fun y => ?_⟩
      · rw [List.map_cons, List.foldl_cons, seen, decide_eq_false old]
        simpa using folded
      · rw [members]
        simp [or_assoc]

theorem texts_filterMap {vs : List Value} (texts : ∀ v ∈ vs, ∃ x, v = .str x) :
    (vs.filterMap Value.str?).map Value.str = vs := by
  induction vs with
  | nil => rfl
  | cons v vs later =>
    obtain ⟨x, rfl⟩ := texts v List.mem_cons_self
    simp only [List.filterMap_cons, str?, List.map_cons]
    rw [later fun w member => texts w (List.mem_cons_of_mem _ member)]

theorem distinctKeys_length_le {vs vs' : List Value} (texts : ∀ v ∈ vs, ∃ x, v = .str x)
    (sub : vs'.Sublist vs) : (distinctKeys vs').length ≤ (distinctKeys vs).length := by
  have texts' : ∀ v ∈ vs', ∃ x, v = .str x := fun v member => texts v (sub.subset member)
  obtain ⟨zs, folded, -, members⟩ := foldl_distinct_texts (vs.filterMap Value.str?) [] List.nodup_nil
  obtain ⟨zs', folded', distinct', members'⟩ :=
    foldl_distinct_texts (vs'.filterMap Value.str?) [] List.nodup_nil
  rw [List.map_nil] at folded folded'
  have within : zs' ⊆ zs := by
    intro y member
    rw [members] at ⊢
    rw [members'] at member
    rcases member with nothing | found
    · cases nothing
    · exact .inr ((sub.filterMap _).subset found)
  unfold distinctKeys
  rw [← texts_filterMap texts, ← texts_filterMap texts', folded, folded',
    List.length_map, List.length_map]
  exact (List.subperm_of_subset distinct' within).length_le

end Value

theorem Value.distinctKeys_length_le_length (vs : List Value) :
    (Value.distinctKeys vs).length ≤ vs.length := by
  -- each step of the fold adds at most the item it looks at
  have grows : ∀ (xs acc : List Value), (xs.foldl (fun acc x =>
      if acc.any (·.same x) then acc else acc ++ [x]) acc).length ≤ acc.length + xs.length := by
    intro xs
    induction xs with
    | nil => intro acc; simp
    | cons x xs later =>
      intro acc
      rw [List.foldl_cons]
      split
      · have := later acc
        simp only [List.length_cons]
        omega
      · have := later (acc ++ [x])
        simp only [List.length_append, List.length_cons, List.length_nil] at this ⊢
        omega
  have whole := grows vs []
  rw [List.length_nil, Nat.zero_add] at whole
  exact whole

namespace Verdict

variable {assigned : List (Value × Value)} {nodes nodes' : List ComputeNode} {slot : AppGroup}

/-- A slot a rebuild kept, judged valid against other nodes, was valid against its own: the
assignments are the same, and every other verdict the nodes could give drops the slot. -/
theorem of_valid_of_kept (kept : (Verdict.of assigned nodes slot).drops = false)
    (valid : Verdict.of assigned nodes' slot = .valid) : Verdict.of assigned nodes slot = .valid := by
  unfold Verdict.of at kept valid ⊢
  by_cases truthy : slot.workloadId.truthy = true
  · simp only [truthy, Bool.not_true, Bool.false_eq_true, if_false] at kept valid ⊢
    have assignments : Verdict.onAssignments assigned slot = .valid := by
      split at valid
      · cases valid
      · split at valid
        · cases valid
        · exact valid
    split at kept
    · cases kept
    · next node _ =>
      split at kept
      · cases kept
      · next running => rw [if_neg running, assignments]
  · simp only [truthy, Bool.not_false, if_true] at valid
    cases valid

theorem of_valid_text (texts : ∀ n ∈ nodes, ∃ x, n.id = .str x)
    (valid : Verdict.of assigned nodes slot = .valid) : ∃ x, slot.workloadId = .str x := by
  unfold Verdict.of at valid
  split at valid
  · cases valid
  · split at valid
    · cases valid
    · next node found =>
      obtain ⟨-, chosen⟩ := List.mem_filter.mp (List.mem_of_getLast? found)
      obtain ⟨x, named⟩ := texts node (List.mem_filter.mp (List.mem_of_getLast? found)).1
      rw [named] at chosen
      exact ⟨x, Value.str_same chosen⟩

theorem granted_texts (texts : ∀ n ∈ nodes, ∃ x, n.id = .str x) (slots : List AppGroup) :
    ∀ v ∈ Verdict.granted assigned nodes slots, ∃ x, v = .str x := by
  intro v member
  obtain ⟨g, chosen, rfl⟩ := List.mem_map.mp member
  exact of_valid_text texts (of_decide_eq_true (List.mem_filter.mp chosen).2)

/-- Judging again the slots a rebuild kept, against any nodes, grants no workload the rebuild
did not grant, in the same order. -/
theorem granted_sublist (slots : List AppGroup) {keep : AppGroup → Bool}
    (kept : ∀ g ∈ slots, keep g = true → (Verdict.of assigned nodes g).drops = false) :
    (Verdict.granted assigned nodes' (slots.filter keep)).Sublist
      (Verdict.granted assigned nodes slots) := by
  unfold Verdict.granted
  apply List.Sublist.map
  -- a slot valid again was valid before, so re-judging only narrows the kept slots
  have narrower : (slots.filter keep).filter (fun g => Verdict.of assigned nodes' g = .valid) =
      ((slots.filter keep).filter fun g => Verdict.of assigned nodes g = .valid).filter
        fun g => Verdict.of assigned nodes' g = .valid := by
    conv_rhs => rw [List.filter_filter]
    apply List.filter_congr
    intro g member
    have before := kept g (List.mem_filter.mp member).1 (List.mem_filter.mp member).2
    by_cases valid : Verdict.of assigned nodes' g = .valid
    · simp [valid, of_valid_of_kept before valid]
    · simp [valid]
  rw [narrower]
  exact (List.filter_sublist).trans ((List.filter_sublist).filter _)

theorem drops_of_kept {slots : List AppGroup} {g : AppGroup} (member : g ∈ slots)
    (named : ∃ x, g.name = .str x)
    (kept : (Verdict.dropped assigned nodes slots).all (fun d => !g.name.same d.name) = true) :
    (Verdict.of assigned nodes g).drops = false := by
  obtain ⟨x, named⟩ := named
  by_contra drops
  have dropped : g ∈ Verdict.dropped assigned nodes slots :=
    List.mem_filter.mpr ⟨member, by simpa using drops⟩
  have self := List.all_eq_true.mp kept g dropped
  rw [named, Value.same_str_self] at self
  cases self

/-- The reservations only shrink: judging again, against any nodes, the slots a rebuild kept
grants no more distinct workloads than the rebuild did, when the nodes it judged against have
text ids and the slots text names. -/
theorem reservations_shrink (texts : ∀ n ∈ nodes, ∃ x, n.id = .str x) {slots : List AppGroup}
    (names : ∀ g ∈ slots, ∃ x, g.name = .str x) :
    (Value.distinctKeys (Verdict.granted assigned nodes' (slots.filter fun g =>
        (Verdict.dropped assigned nodes slots).all fun d => !g.name.same d.name))).length ≤
      (Value.distinctKeys (Verdict.granted assigned nodes slots)).length :=
  Value.distinctKeys_length_le (granted_texts texts slots)
    (granted_sublist slots fun g member kept => drops_of_kept member (names g member) kept)

end Verdict

namespace World

theorem slotsOf_deleteSlot {w : World} (calm : w.fail = {}) {name : Value}
    (hashable : name.isHashable = true) (pool : Value) :
    ((deleteSlot name).run w).2.slotsOf pool = (w.slotsOf pool).filter fun g => !g.name.same name := by
  rw [deleteSlot_calm calm name hashable]
  simp only [slotsOf, Keyed.find?, List.find?_map, Function.comp_def]
  have entry : ∀ o : Option (Value × List AppGroup),
      ((o.map fun x => (x.1, x.2.filter fun g => !g.name.same name)).map (·.2)).getD [] =
        ((o.map (·.2)).getD []).filter fun g => !g.name.same name := by
    intro o
    cases o <;> rfl
  exact entry _

end World

namespace Scene

variable (env : Env) (watch : Bool)

theorem exec_invalidate_calm (slot : AppGroup) (v : Verdict) (b : Books) (sc : Scene) :
    exec (invalidate (services env watch) slot v) b sc =
      ⟨.ok v, b, { sc with world := ((World.deleteSlot slot.name).run sc.world).2 }⟩ := rfl

/-- In a calm world a slot is judged by its verdict, and deleted when the verdict drops it. -/
theorem validate_calm {sc : Scene} (calm : sc.world.fail = {}) (nodes : List ComputeNode)
    (slot : AppGroup) (named : slot.name.isHashable = true)
    (keyed : slot.workloadId.isHashable = true) (b : Books) :
    exec (validate (services env watch) nodes slot) b sc =
      ⟨.ok (Verdict.of sc.world.assignments nodes slot), b,
        if (Verdict.of sc.world.assignments nodes slot).drops then
          { sc with world := ((World.deleteSlot slot.name).run sc.world).2 } else sc⟩ := by
  unfold validate Verdict.of Verdict.onAssignments
  by_cases truthy : slot.workloadId.truthy = true
  · simp only [truthy, Bool.not_true, Bool.false_eq_true, if_false]
    rw [exec_bind, exec_check, lookup_hashable keyed]
    dsimp only
    rcases found : nodeFor nodes slot.workloadId with _ | node
    · exact exec_invalidate_calm env watch slot _ b sc
    · by_cases running : node.isRunning = true
      · simp only [running, Bool.not_true, Bool.false_eq_true, if_false]
        rw [exec_bind, exec_lift]
        have asked : ((services env watch).directory.assignments slot.name).run sc =
            (((Keyed.find? Value.same sc.world.assignments slot.name).getD (.list [])).iterate, sc) := by
          show (plain (World.assignmentsOf slot.name)).run sc = _
          rw [plain_run, World.assignmentsOf_calm calm slot.name named]
        rw [asked]
        dsimp only
        rcases ((Keyed.find? Value.same sc.world.assignments slot.name).getD (.list [])).iterate
          with e | _ | ⟨first, rest⟩
        · rfl
        · exact exec_invalidate_calm env watch slot _ b sc
        · rfl
      · simp only [running, Bool.not_false, if_true]
        exact exec_invalidate_calm env watch slot _ b sc
  · simp [truthy, Verdict.drops]

theorem dropSlots_calm {sc : Scene} (calm : sc.world.fail = {}) (assigned : List (Value × Value))
    (nodes : List ComputeNode) (slots : List AppGroup)
    (named : ∀ g ∈ slots, g.name.isHashable = true) :
    ∃ S L, slots.foldl (fun sc g => if (Verdict.of assigned nodes g).drops then
          { sc with world := ((World.deleteSlot g.name).run sc.world).2 } else sc) sc =
        { sc with world := { sc.world with slots := S, log := L } } ∧
      ∀ pool, ({ sc.world with slots := S, log := L } : World).slotsOf pool =
        (sc.world.slotsOf pool).filter fun g =>
          (Verdict.dropped assigned nodes slots).all fun d => !g.name.same d.name := by
  induction slots generalizing sc with
  | nil =>
    refine ⟨sc.world.slots, sc.world.log, rfl, fun pool => ?_⟩
    simp [Verdict.dropped]
  | cons g slots later =>
    have named' : ∀ h ∈ slots, h.name.isHashable = true :=
      fun h member => named h (List.mem_cons_of_mem g member)
    by_cases drops : (Verdict.of assigned nodes g).drops = true
    · have hashable := named g List.mem_cons_self
      obtain ⟨S, L, folded, found⟩ := later
        (show ({ sc with world := ((World.deleteSlot g.name).run sc.world).2 } : Scene).world.fail = {} by
          rw [World.deleteSlot_calm calm g.name hashable]; exact calm) named'
      refine ⟨S, L, ?_, fun pool => ?_⟩
      · rw [List.foldl_cons, if_pos drops, folded, World.deleteSlot_calm calm g.name hashable]
      · have first := found pool
        rw [World.slotsOf_deleteSlot calm hashable, List.filter_filter] at first
        have cons : Verdict.dropped assigned nodes (g :: slots) =
            g :: Verdict.dropped assigned nodes slots := List.filter_cons_of_pos drops
        rw [show ({ sc.world with slots := S, log := L } : World) =
          { ((World.deleteSlot g.name).run sc.world).2 with slots := S, log := L } by
            rw [World.deleteSlot_calm calm g.name hashable], first, cons]
        apply List.filter_congr
        intro x _
        simp only [List.all_cons, Bool.and_comm]
    · obtain ⟨S, L, folded, found⟩ := later calm named'
      refine ⟨S, L, ?_, fun pool => ?_⟩
      · rw [List.foldl_cons, if_neg drops, folded]
      · have cons : Verdict.dropped assigned nodes (g :: slots) =
            Verdict.dropped assigned nodes slots := List.filter_cons_of_neg drops
        rw [found pool, cons]

/-- A rebuild in a calm world whose nodes and slots of the pool are keys: it grants the workloads
of the slots judged valid, deletes the slots whose verdicts drop them, stores the grants for
the pool, and changes nothing else but the record of calls. -/
theorem rebuild_calm {sc : Scene} (calm : sc.Calm watch) (p : String)
    (keyed : ∀ n ∈ sc.world.nodes, n.id.isHashable = true)
    (slotted : ∀ g ∈ sc.world.slotsOf (.str p), g.name.isHashable = true ∧ g.workloadId.isHashable = true)
    (b : Books) :
    ∃ sc' S L, exec (rebuild (services env watch) (.str p)) b sc =
        ⟨.ok (Value.distinctKeys (Verdict.granted sc.world.assignments sc.world.nodes
            (sc.world.slotsOf (.str p)))),
          b.replaceReservations (.str p) (Verdict.granted sc.world.assignments sc.world.nodes
            (sc.world.slotsOf (.str p))), sc'⟩ ∧
      sc'.hooks = sc.hooks ∧ sc'.drawn = sc.drawn ∧
      sc'.world = { sc.world with slots := S, log := L } ∧
      ∀ pool, sc'.world.slotsOf pool = (sc.world.slotsOf pool).filter fun g =>
        (Verdict.dropped sc.world.assignments sc.world.nodes (sc.world.slotsOf (.str p))).all
          fun d => !g.name.same d.name := by
  set slots := sc.world.slotsOf (.str p) with slots_def
  have listing : Acts (World.listSlots (.str p)) ((services env watch).directory.listSlots (.str p)) sc :=
    hooked_acts "list_app_groups" .directory _ calm.unhooked calm.unstopped
  set sc1 := (((services env watch).directory.listSlots (.str p)).run sc).2 with sc1_def
  have listed1 : (World.listSlots (.str p)).run sc.world = (.ok slots, sc.world) :=
    World.listSlots_calm calm.unfailing (.str p) rfl
  have world1 : sc1.world = sc.world := by rw [listing.world, listed1]
  have calm1 : sc1.Calm watch := Calm.of_hooks calm listing.hooks (by rw [world1])
  have inventory : Acts (World.listAll .null) ((services env watch).compute.listAll .null) sc1 :=
    hooked_acts "list_all" .compute _ calm1.unhooked calm1.unstopped
  set sc2 := (((services env watch).compute.listAll .null).run sc1).2 with sc2_def
  have listed2 : (World.listAll .null).run sc1.world = (.ok sc.world.nodes, sc1.world) := by
    rw [World.listAll_calm calm1.unfailing, world1]
    rfl
  have world2 : sc2.world = sc.world := by rw [inventory.world, listed2, world1]
  have calm2 : sc2.Calm watch := Calm.of_hooks calm1 inventory.hooks (by rw [world2, world1])
  have judged := Pass.exec_fanOut_answers (validate (services env watch) sc.world.nodes)
    (Verdict.of sc.world.assignments sc.world.nodes)
    (fun g t => if (Verdict.of sc.world.assignments sc.world.nodes g).drops then
      { t with world := ((World.deleteSlot g.name).run t.world).2 } else t)
    (fun t => t.world.fail = {} ∧ t.world.assignments = sc.world.assignments) slots (by
      intro g member b t ⟨quiet, same⟩
      obtain ⟨named, keyedSlot⟩ := slotted g member
      rw [validate_calm env watch quiet sc.world.nodes g named keyedSlot, same]
      refine ⟨rfl, ?_⟩
      split
      · rw [World.deleteSlot_calm quiet g.name named]
        exact ⟨quiet, same⟩
      · exact ⟨quiet, same⟩) b sc2 ⟨calm2.unfailing, by rw [world2]⟩
  obtain ⟨S, L, folded, found⟩ := dropSlots_calm calm2.unfailing sc.world.assignments
    sc.world.nodes slots fun g member => (slotted g member).1
  refine ⟨{ sc2 with world := { sc2.world with slots := S, log := L } }, S, L, ?_, ?_, ?_, ?_, ?_⟩
  · unfold rebuild
    rw [exec_bind, exec_tryCatch, exec_call_acts listing, listed1]
    dsimp only
    rw [exec_bind, exec_tryCatch, exec_bind, exec_call_acts inventory, listed2]
    dsimp only
    rw [exec_check, inventory_keyed keyed]
    dsimp only
    rw [exec_bind, judged]
    dsimp only
    rw [folded, Verdict.filterMap_granted ?picks]
    · rfl
    · -- the rebuild keeps exactly the valid verdicts
      intro slot o
      rcases o with e | v
      · rfl
      · cases v <;> rfl
  · exact inventory.hooks.trans listing.hooks
  · exact inventory.drawn.trans listing.drawn
  · show { sc2.world with slots := S, log := L } = _
    rw [world2]
  · intro pool
    rw [show sc.world.slotsOf pool = sc2.world.slotsOf pool by rw [world2]]
    exact found pool

/-- Assessing the pool in a calm world whose records are named by text: the listing is the
pool's records, the classification the world's own, and the plan targets the clamped exact
ceiling for the reservations found; nothing changes but the record of calls. -/
theorem assess_calm (s : Settings) {sc : Scene} (calm : sc.Calm watch) (p : String)
    (names : ∀ h ∈ sc.world.hosts, ∃ x, h.name = .str x) {lo hi k : Int}
    (whole : s.scaling.Whole lo hi k) (wide : k < 2 ^ 1075) (reservations : List Value)
    (fits : (reservations.length : Int) < 2 ^ 53) (b : Books) :
    ∃ sc' plan, exec (assess (services env watch) s (.str p) reservations) b sc =
        ⟨.ok ⟨reservations, sc.world.poolHosts p, sc.world.classes (sc.world.poolHosts p), plan⟩,
          b, sc'⟩ ∧
      plan.target = .int (Scaling.clampedHosts lo hi k reservations.length) ∧
      sc'.hooks = sc.hooks ∧ sc'.drawn = sc.drawn ∧ sc'.world = sc.world := by
  have listing : Acts (World.listHosts (.str p)) ((services env watch).directory.listHosts (.str p)) sc :=
    hooked_acts "list_hosts" .directory _ calm.unhooked calm.unstopped
  set sc1 := (((services env watch).directory.listHosts (.str p)).run sc).2 with sc1_def
  have listed := World.listHosts_pool calm.unfailing p names
  have world1 : sc1.world = sc.world := by rw [listing.world, listed]
  have calm1 : sc1.Calm watch := Calm.of_hooks calm listing.hooks (by rw [world1])
  have classified := classify_calm env watch calm1.unfailing (sc.world.poolHosts p)
  rw [world1] at classified
  obtain ⟨plan, planned, -, target, -, -⟩ :=
    Scaling.plan_whole whole fits (by omega) (Int.natCast_nonneg (sc.world.classes (sc.world.poolHosts p)).up.length)
  refine ⟨sc1, plan, ?_, target, listing.hooks, listing.drawn, world1⟩
  unfold assess
  rw [exec_bind, exec_checkpoint_calm env watch calm]
  dsimp only
  rw [exec_bind, exec_tryCatch, exec_call_acts listing, listed]
  dsimp only
  rw [exec_bind, exec_checkpoint_calm env watch calm1]
  dsimp only
  rw [exec_bind, exec_lift, classified]
  dsimp only
  rw [exec_bind, exec_checkpoint_calm env watch calm1]
  dsimp only
  rw [exec_bind, exec_check, planned]
  rfl

/-- Surveying the pool in a calm world: the rebuild grants and stores the workloads of the
valid slots and deletes the slots it drops, and the assessment plans for the distinct workloads
granted, over the pool's records as they stand. -/
theorem survey_calm (s : Settings) {sc : Scene} (calm : sc.Calm watch) (p : String)
    (keyed : ∀ n ∈ sc.world.nodes, n.id.isHashable = true)
    (slotted : ∀ g ∈ sc.world.slotsOf (.str p), g.name.isHashable = true ∧ g.workloadId.isHashable = true)
    (names : ∀ h ∈ sc.world.hosts, ∃ x, h.name = .str x) {lo hi k : Int}
    (whole : s.scaling.Whole lo hi k) (wide : k < 2 ^ 1075)
    (fits : ((sc.world.slotsOf (.str p)).length : Int) < 2 ^ 53) (b : Books) :
    ∃ sc' plan, exec (survey (services env watch) s (.str p)) b sc =
        ⟨.ok ⟨Value.distinctKeys (Verdict.granted sc.world.assignments sc.world.nodes
            (sc.world.slotsOf (.str p))), sc.world.poolHosts p,
            sc.world.classes (sc.world.poolHosts p), plan⟩,
          b.replaceReservations (.str p) (Verdict.granted sc.world.assignments sc.world.nodes
            (sc.world.slotsOf (.str p))), sc'⟩ ∧
      plan.target = .int (Scaling.clampedHosts lo hi k (Value.distinctKeys (Verdict.granted
        sc.world.assignments sc.world.nodes (sc.world.slotsOf (.str p)))).length) ∧
      sc'.hooks = sc.hooks ∧ sc'.drawn = sc.drawn ∧
      (∃ S L, sc'.world = { sc.world with slots := S, log := L }) ∧
      ∀ pool, sc'.world.slotsOf pool = (sc.world.slotsOf pool).filter fun g =>
        (Verdict.dropped sc.world.assignments sc.world.nodes (sc.world.slotsOf (.str p))).all
          fun d => !g.name.same d.name := by
  obtain ⟨sc1, S, L, rebuilt, hooks1, drawn1, world1, slots1⟩ :=
    rebuild_calm env watch calm p keyed slotted (b)
  have calm1 : sc1.Calm watch := Calm.of_hooks calm hooks1 (by rw [world1])
  have names1 : ∀ h ∈ sc1.world.hosts, ∃ x, h.name = .str x := by
    rw [world1]
    exact names
  have fewer : (Value.distinctKeys (Verdict.granted sc.world.assignments sc.world.nodes
      (sc.world.slotsOf (.str p)))).length ≤ (sc.world.slotsOf (.str p)).length := by
    refine (Value.distinctKeys_length_le_length _).trans ?_
    unfold Verdict.granted
    rw [List.length_map]
    exact List.length_filter_le _ _
  obtain ⟨sc2, plan, assessed, target, hooks2, drawn2, world2⟩ :=
    assess_calm env watch s calm1 p names1 whole wide (Value.distinctKeys (Verdict.granted
      sc.world.assignments sc.world.nodes (sc.world.slotsOf (.str p)))) (by omega)
      (b.replaceReservations (.str p)
      (Verdict.granted sc.world.assignments sc.world.nodes (sc.world.slotsOf (.str p))))
  refine ⟨sc2, plan, ?_, target, hooks2.trans hooks1, drawn2.trans drawn1,
    ⟨S, L, world2.trans world1⟩, fun pool => by rw [world2]; exact slots1 pool⟩
  unfold survey
  rw [exec_bind, exec_checkpoint_calm env watch calm]
  dsimp only
  rw [exec_bind, rebuilt]
  dsimp only
  rw [assessed, world1]
  rfl

end Scene

end DesktopPool
