import Mathlib.Algebra.Order.Group.Multiset
import DesktopPool.Proofs.Concurrency.Steps
import DesktopPool.Proofs.World.Services

/-! The operations of the in-memory world that the fan-out phases of a pass make: deleting a
node, a host record or a slot, and listing a slot's assignments. Each answers from the planned
failures and the assignments alone, which none of them changes; each deletion removes what it
names from one collection and records the call. Seen without the order of the deletion
records, any two of them commute. -/
namespace DesktopPool

namespace World

/-- The world without the slots named `name`, in every pool. -/
def dropSlot (w : World) (name : Value) : World :=
  { w with slots := w.slots.map fun entry => (entry.1, entry.2.filter fun g => !g.name.same name) }

theorem dropNode_comm (w : World) (a b : Value) : (w.dropNode a).dropNode b = (w.dropNode b).dropNode a := by
  simp only [dropNode, List.filter_filter, Bool.and_comm]

theorem dropHost_comm (w : World) (a b : Value) : (w.dropHost a).dropHost b = (w.dropHost b).dropHost a := by
  simp only [dropHost, List.filter_filter, Bool.and_comm]

theorem dropSlot_comm (w : World) (a b : Value) : (w.dropSlot a).dropSlot b = (w.dropSlot b).dropSlot a := by
  simp only [dropSlot, List.map_map, Function.comp_def, List.filter_filter, Bool.and_comm]

end World

def Passes (o : Outcome Bool) : Prop := o.toOption = some false

instance (o : Outcome Bool) : Decidable (Passes o) := inferInstanceAs (Decidable (_ = _))

namespace World

theorem delete_state (id : Value) (w : World) :
    ((delete id).run w).2 =
      if Passes (id.memberOf w.fail.delete) then
        { w.dropNode id with log := { w.log with deletedNodes := w.log.deletedNodes ++ [id] } }
      else w := by
  unfold delete guard
  rcases member : id.memberOf w.fail.delete with e | _ | _ <;>
    simp [member, Passes, Except.toOption] <;> rfl

theorem deleteHost_state (h : SessionHost) (w : World) :
    ((deleteHost h).run w).2 =
      if Passes (h.name.memberOf w.fail.deleteHosts) then
        { w.dropHost h.name with log := { w.log with deletedHosts := w.log.deletedHosts ++ [h.name] } }
      else w := by
  unfold deleteHost guard
  rcases member : h.name.memberOf w.fail.deleteHosts with e | _ | _ <;>
    simp [member, Passes, Except.toOption] <;> rfl

theorem deleteSlot_state (name : Value) (w : World) :
    ((deleteSlot name).run w).2 =
      if Passes (name.memberOf w.fail.deleteSlots) then
        { w.dropSlot name with log := { w.log with deletedSlots := w.log.deletedSlots ++ [name] } }
      else w := by
  unfold deleteSlot guard
  rcases member : name.memberOf w.fail.deleteSlots with e | _ | _ <;>
    simp [member, Passes, Except.toOption] <;> rfl

theorem delete_answer (id : Value) {w w' : World} (same : w.fail = w'.fail) :
    ((delete id).run w).1 = ((delete id).run w').1 := by
  unfold delete guard
  simp only [StateM.run_bind, StateM.run_get, same]
  rcases member : id.memberOf w'.fail.delete with e | _ | _ <;> rfl

theorem deleteHost_answer (h : SessionHost) {w w' : World} (same : w.fail = w'.fail) :
    ((deleteHost h).run w).1 = ((deleteHost h).run w').1 := by
  unfold deleteHost guard
  simp only [StateM.run_bind, StateM.run_get, same]
  rcases member : h.name.memberOf w'.fail.deleteHosts with e | _ | _ <;> rfl

theorem deleteSlot_answer (name : Value) {w w' : World} (same : w.fail = w'.fail) :
    ((deleteSlot name).run w).1 = ((deleteSlot name).run w').1 := by
  unfold deleteSlot guard
  simp only [StateM.run_bind, StateM.run_get, same]
  rcases member : name.memberOf w'.fail.deleteSlots with e | _ | _ <;> rfl

theorem assignmentsOf_answer (name : Value) {w w' : World} (same : w.fail = w'.fail)
    (granted : w.assignments = w'.assignments) :
    ((assignmentsOf name).run w).1 = ((assignmentsOf name).run w').1 := by
  unfold assignmentsOf
  simp only [StateM.run_bind, StateM.run_get, same, granted]
  rcases member : name.memberOf w'.fail.assignments with e | _ | _ <;> rfl

end World

/-- The world operations of the fan-out phases. -/
inductive Erasure where
  | node (id : Value)
  | host (h : SessionHost)
  | slot (name : Value)
  | grants (name : Value)

namespace Scene

/-- What the operations of the fan-out phases answer from: the planned failures and the
assignments. -/
def planned (sc : Scene) : Injection × List (Value × Value) := (sc.world.fail, sc.world.assignments)

/-- A scene seen without the order of its deletion records: the scene with those records
emptied, and the ids of the nodes, the names of the host records and of the slots deleted, as
multisets. -/
structure Unordered where
  rest : Scene
  nodes : Multiset Value
  hosts : Multiset Value
  slots : Multiset Value

def unordered (sc : Scene) : Unordered :=
  ⟨{ sc with world := { sc.world with log := { sc.world.log with
      deletedNodes := [], deletedHosts := [], deletedSlots := [] } } },
    sc.world.log.deletedNodes, sc.world.log.deletedHosts, sc.world.log.deletedSlots⟩

@[simp] theorem unordered_fail (sc : Scene) : sc.unordered.rest.world.fail = sc.world.fail := rfl

end Scene

namespace Erasure

def effect : Erasure → Scene → Scene
  | node id => fun sc => ((Scene.plain (World.delete id)).run sc).2
  | host h => fun sc => ((Scene.plain (World.deleteHost h)).run sc).2
  | slot name => fun sc => ((Scene.plain (World.deleteSlot name)).run sc).2
  | grants name => fun sc => ((Scene.plain (World.assignmentsOf name)).run sc).2

/-- What the operation does, under the planned failures `fail`, to a scene seen without the
order of its deletion records. -/
def act : Erasure → Injection → Scene.Unordered → Scene.Unordered
  | node id, fail, v =>
    if Passes (id.memberOf fail.delete) then
      { v with rest := { v.rest with world := v.rest.world.dropNode id }, nodes := v.nodes + {id} }
    else v
  | host h, fail, v =>
    if Passes (h.name.memberOf fail.deleteHosts) then
      { v with rest := { v.rest with world := v.rest.world.dropHost h.name },
               hosts := v.hosts + {h.name} }
    else v
  | slot name, fail, v =>
    if Passes (name.memberOf fail.deleteSlots) then
      { v with rest := { v.rest with world := v.rest.world.dropSlot name },
               slots := v.slots + {name} }
    else v
  | grants _, _, v => v

theorem unordered_effect (r : Erasure) (sc : Scene) :
    (r.effect sc).unordered = r.act sc.world.fail sc.unordered := by
  cases r with
  | node id =>
    simp only [effect, Scene.plain_run, World.delete_state, act]
    by_cases passes : Passes (id.memberOf sc.world.fail.delete)
    · rw [if_pos passes, if_pos passes]
      simp [Scene.unordered, World.dropNode, ← Multiset.coe_add]
    · rw [if_neg passes, if_neg passes]
  | host h =>
    simp only [effect, Scene.plain_run, World.deleteHost_state, act]
    by_cases passes : Passes (h.name.memberOf sc.world.fail.deleteHosts)
    · rw [if_pos passes, if_pos passes]
      simp [Scene.unordered, World.dropHost, ← Multiset.coe_add]
    · rw [if_neg passes, if_neg passes]
  | slot name =>
    simp only [effect, Scene.plain_run, World.deleteSlot_state, act]
    by_cases passes : Passes (name.memberOf sc.world.fail.deleteSlots)
    · rw [if_pos passes, if_pos passes]
      simp [Scene.unordered, World.dropSlot, ← Multiset.coe_add]
    · rw [if_neg passes, if_neg passes]
  | grants name =>
    simp only [effect, Scene.plain_run, World.assignmentsOf_still, act]

theorem planned_effect (r : Erasure) (sc : Scene) : (r.effect sc).planned = sc.planned := by
  cases r with
  | node id =>
    simp only [effect, Scene.plain_run, World.delete_state]
    split <;> rfl
  | host h =>
    simp only [effect, Scene.plain_run, World.deleteHost_state]
    split <;> rfl
  | slot name =>
    simp only [effect, Scene.plain_run, World.deleteSlot_state]
    split <;> rfl
  | grants name =>
    simp only [effect, Scene.plain_run, World.assignmentsOf_still]

/-- Any two of the operations, under the same planned failures, commute as the view sees them. -/
theorem act_comm (r r' : Erasure) (fail : Injection) (v : Scene.Unordered) :
    r.act fail (r'.act fail v) = r'.act fail (r.act fail v) := by
  cases r <;> cases r' <;> simp only [act] <;> split_ifs <;>
    simp [World.dropNode_comm, World.dropHost_comm, World.dropSlot_comm, add_right_comm] <;> rfl

end Erasure

def Erasing (e : Scene → Scene) : Prop := ∃ r : Erasure, e = r.effect

/-- The operations of the fan-out phases keep what they answer from, and commute as a scene is
seen without the order of its deletion records. -/
theorem erasing_commuting : Steps.Commuting Erasing Scene.planned Scene.unordered where
  key := by
    rintro e ⟨r, rfl⟩ sc
    exact r.planned_effect sc
  congr := by
    rintro e ⟨r, rfl⟩ s s' same
    have fail : s.world.fail = s'.world.fail := congrArg (fun v => v.rest.world.fail) same
    rw [r.unordered_effect, r.unordered_effect, same, fail]
  comm := by
    rintro e e' ⟨r, rfl⟩ ⟨r', rfl⟩ s
    have kept : ∀ (q : Erasure) (sc : Scene), (q.effect sc).world.fail = sc.world.fail :=
      fun q sc => congrArg Prod.fst (q.planned_effect sc)
    rw [r.unordered_effect, r'.unordered_effect, r'.unordered_effect, r.unordered_effect, kept,
      kept, Erasure.act_comm]

end DesktopPool
