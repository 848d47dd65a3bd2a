import DesktopPool.Pass.Classify
import DesktopPool.World.Scene

/-! Host classification, whatever the compute service answers. Classifying a listing makes one
node lookup for each sleeping host whose name parses, in the order of the listing, and no other
call; then each host goes to exactly one bucket: `up` when it is `Available`, `resumable` when its
lookup found a node, `stale` otherwise. Each bucket keeps the order of the listing, and the three
together hold every host once.

`classify_partitions` says so over every lawful monad the service may run in: classifying is the
hosts' lookups, one after another, followed by a sorting that depends on their answers alone. -/
namespace DesktopPool

namespace Classification

/-- The hosts, in order, that `keep` admits, given for each whether its node was found: host `i`
found it when entry `i` of `found` is true, a missing entry counting as not found. -/
def select (keep : SessionHost → Bool → Bool) : List SessionHost → List Bool → List SessionHost
  | [], _ => []
  | h :: rest, found =>
    if keep h (found.headD false) then h :: select keep rest found.tail
    else select keep rest found.tail

/-- The buckets of `hosts` when the lookups answered `found`. -/
def ofFound (hosts : List SessionHost) (found : List Bool) : Classification where
  up := select (fun h _ => h.isAvailable) hosts found
  resumable := select (fun h f => !h.isAvailable && f) hosts found
  stale := select (fun h f => !h.isAvailable && !f) hosts found

def place (h : SessionHost) (found : Bool) (c : Classification) : Classification :=
  if h.isAvailable then { c with up := h :: c.up }
  else if found then { c with resumable := h :: c.resumable }
  else { c with stale := h :: c.stale }

section Select

variable (keep : SessionHost → Bool → Bool)

@[simp] theorem select_nil (found : List Bool) : select keep [] found = [] := rfl

@[simp] theorem select_cons (h : SessionHost) (rest : List SessionHost) (found : List Bool) :
    select keep (h :: rest) found =
      if keep h (found.headD false) then h :: select keep rest found.tail
      else select keep rest found.tail := rfl

theorem select_sublist (hosts : List SessionHost) (found : List Bool) :
    (select keep hosts found).Sublist hosts := by
  induction hosts generalizing found with
  | nil => exact List.Sublist.slnil
  | cons h rest ih =>
    rw [select_cons]
    split
    · exact (ih found.tail).cons_cons h
    · exact (ih found.tail).cons h

theorem select_filter (p : SessionHost → Bool) (hosts : List SessionHost) (found : List Bool) :
    select (fun h _ => p h) hosts found = hosts.filter p := by
  induction hosts generalizing found with
  | nil => rfl
  | cons h rest ih => by_cases kept : p h <;> simp [kept, ih]

/-- Three tests of which exactly one admits each host and answer split the hosts among them. -/
theorem select_perm (keep₁ keep₂ keep₃ : SessionHost → Bool → Bool)
    (one : ∀ h f, (keep₁ h f ∧ ¬keep₂ h f ∧ ¬keep₃ h f) ∨ (¬keep₁ h f ∧ keep₂ h f ∧ ¬keep₃ h f) ∨
      (¬keep₁ h f ∧ ¬keep₂ h f ∧ keep₃ h f))
    (hosts : List SessionHost) (found : List Bool) :
    (select keep₁ hosts found ++ select keep₂ hosts found ++ select keep₃ hosts found).Perm hosts := by
  induction hosts generalizing found with
  | nil => exact List.Perm.nil
  | cons h rest ih =>
    have rest_perm := ih found.tail
    rw [select_cons, select_cons, select_cons]
    rcases one h (found.headD false) with ⟨k₁, k₂, k₃⟩ | ⟨k₁, k₂, k₃⟩ | ⟨k₁, k₂, k₃⟩
    · rw [if_pos k₁, if_neg k₂, if_neg k₃]
      exact rest_perm.cons h
    · rw [if_neg k₁, if_pos k₂, if_neg k₃]
      exact List.perm_middle.append_right _ |>.trans (rest_perm.cons h)
    · rw [if_neg k₁, if_neg k₂, if_pos k₃]
      exact List.perm_middle.trans (rest_perm.cons h)

end Select

@[simp] theorem ofFound_nil (found : List Bool) : ofFound [] found = {} := rfl

theorem ofFound_cons (h : SessionHost) (rest : List SessionHost) (found : List Bool) :
    ofFound (h :: rest) found = place h (found.headD false) (ofFound rest found.tail) := by
  cases found with
  | nil => by_cases available : h.isAvailable <;> simp [ofFound, place, available]
  | cons hit found =>
    by_cases available : h.isAvailable <;> cases hit <;> simp [ofFound, place, available]

theorem ofFound_up (hosts : List SessionHost) (found : List Bool) :
    (ofFound hosts found).up = hosts.filter (·.isAvailable) :=
  select_filter _ hosts found

/-- Every host lands in exactly one bucket. -/
theorem ofFound_perm (hosts : List SessionHost) (found : List Bool) :
    ((ofFound hosts found).up ++ (ofFound hosts found).resumable ++ (ofFound hosts found).stale).Perm
      hosts :=
  select_perm _ _ _ (fun h f => by cases h.isAvailable <;> cases f <;> simp) hosts found

theorem ofFound_total (hosts : List SessionHost) (found : List Bool) :
    (ofFound hosts found).total = hosts.length := by
  have counted := (ofFound_perm hosts found).length_eq
  simp only [List.length_append] at counted
  exact counted

end Classification

open Classification

variable {m : Type → Type} [Monad m]

/-- The lookup classifying `h` makes: a sleeping host whose name parses asks for its node,
without its power state, and learns whether one came back; any other host asks nothing. -/
def probe (compute : ComputeService m) (h : SessionHost) : m Bool :=
  match h.isShutdown, h.parts with
  | true, .ok p =>
    (fun answer => match answer with
      | .ok (some _) => true
      | _ => false) <$> compute.get (.str p.node) false
  | _, _ => pure false

variable [LawfulMonad m] (compute : ComputeService m)

theorem nodeExists_probe {h : SessionHost} (sleeping : h.isShutdown = true) :
    nodeExists compute h = probe compute h := by
  unfold nodeExists probe
  rw [sleeping]
  cases h.parts with
  | error e => rfl
  | ok p =>
    simp only [map_eq_pure_bind]
    congr
    funext answer
    rcases answer with e | _ | n <;> rfl

theorem classify_cons (h : SessionHost) (rest : List SessionHost) :
    classify compute (h :: rest) =
      probe compute h >>= fun found => classify compute rest >>= fun c => pure (place h found c) := by
  -- a host that is not asleep is probed by no call, and its bucket needs no answer
  have idle : h.isShutdown = false → probe compute h = pure false := by
    intro awake
    unfold probe
    rw [awake]
  rw [classify.eq_2]
  by_cases none : h.status.isNull
  · have awake : h.isShutdown = false := by
      unfold SessionHost.isShutdown Value.isText
      split <;> simp_all [Value.isNull]
    have down : h.isAvailable = false := by
      unfold SessionHost.isAvailable Value.isText
      split <;> simp_all [Value.isNull]
    simp only [none, if_true, idle awake, pure_bind, place, down, Bool.false_eq_true, if_false]
  · by_cases available : h.isAvailable
    · have awake : h.isShutdown = false := by
        unfold SessionHost.isAvailable Value.isText at available
        unfold SessionHost.isShutdown Value.isText
        split at available <;> simp_all
      simp only [none, available, if_true, if_false, Bool.false_eq_true, idle awake, pure_bind, place]
    · by_cases sleeping : h.isShutdown
      · simp only [none, available, sleeping, if_true, if_false, Bool.false_eq_true,
          ← nodeExists_probe compute sleeping, pure_bind]
        congr
        funext found
        cases found <;> simp only [place, available, Bool.false_eq_true, if_true, if_false]
      · simp only [none, available, sleeping, if_false, Bool.false_eq_true,
          idle (by simpa using sleeping), pure_bind, place]

/-- Classifying is probing every host in order, then sorting by the answers. -/
theorem classify_eq_ofFound (hosts : List SessionHost) :
    classify compute hosts = ofFound hosts <$> hosts.mapM (probe compute) := by
  induction hosts with
  | nil => simp [classify, ofFound, select]
  | cons h rest ih =>
    rw [classify_cons, List.mapM_cons, ih]
    simp only [map_bind, bind_map_left, map_pure, ofFound_cons,
      List.headD_cons, List.tail_cons]

/-- Host classification is a stable three-way partition, for every behaviour of the node
lookups: classifying makes exactly the probes of the hosts, in order, and for any answers
`found` the buckets are the `Available` hosts, the hosts whose node was found and the others,
each in listing order, together a rearrangement of the listing. -/
theorem classify_partitions (hosts : List SessionHost) :
    classify compute hosts = ofFound hosts <$> hosts.mapM (probe compute) ∧
      ∀ found : List Bool,
        (ofFound hosts found).up = hosts.filter (·.isAvailable) ∧
        (ofFound hosts found).resumable = select (fun h f => !h.isAvailable && f) hosts found ∧
        (ofFound hosts found).stale = select (fun h f => !h.isAvailable && !f) hosts found ∧
        (ofFound hosts found).up.Sublist hosts ∧ (ofFound hosts found).resumable.Sublist hosts ∧
        (ofFound hosts found).stale.Sublist hosts ∧
        ((ofFound hosts found).up ++ (ofFound hosts found).resumable ++
          (ofFound hosts found).stale).Perm hosts ∧
        (ofFound hosts found).total = hosts.length :=
  ⟨classify_eq_ofFound compute hosts, fun found =>
    ⟨ofFound_up hosts found, rfl, rfl, select_sublist _ hosts found, select_sublist _ hosts found,
      select_sublist _ hosts found, ofFound_perm hosts found, ofFound_total hosts found⟩⟩

/-- The partition over the in-memory world, for a listing with a sleeping host and one that is
up. -/
theorem classify_partitions_scene :
    let hosts : List SessionHost :=
      [{ name := .str "HP/shvm-1.corp", status := .str "Shutdown" },
        { name := .str "HP/shvm-2.corp", status := .str "Available" }]
    classify (Scene.services [] false).compute hosts =
        ofFound hosts <$> hosts.mapM (probe (Scene.services [] false).compute) ∧
      ∀ found : List Bool, (ofFound hosts found).total = hosts.length := by
  intro hosts
  obtain ⟨factored, sorted⟩ := classify_partitions (m := StateM Scene) (Scene.services [] false).compute hosts
  exact ⟨factored, fun found => (sorted found).2.2.2.2.2.2.2⟩

end DesktopPool
