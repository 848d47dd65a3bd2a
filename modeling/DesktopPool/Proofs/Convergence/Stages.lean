import DesktopPool.Proofs.Convergence.Pool

/-! The converging stages of a pass in a calm world. A purge removes the host's record and the
node behind it; a woken host has its node running and its record `Available`; a creation adds a
running node tagged for the pool and an `Available` record named after it; the orphan sweep
removes the nodes tagged for the pool, under the template's prefix, that back no host the pass
knows of. None of them touches the domain, the slots, the assignments, the workspaces, the
token or the planned failures. Each stage's lemma gives its result and the nodes and records it
leaves, as lists built from the ones it found. -/
namespace DesktopPool

open Pass Reconcile

namespace World

/-- What the converging stages leave as it is: everything but the nodes, the host records and
the record of calls. -/
def fixed (w : World) :
    Value × List (Value × List AppGroup) × List (Value × Value) × List (Value × List Value) ×
      Value × Injection :=
  (w.domain, w.slots, w.assignments, w.workspaces, w.token, w.fail)

theorem fixed_fail {w w' : World} (same : w'.fixed = w.fixed) : w'.fail = w.fail :=
  congrArg (fun f => f.2.2.2.2.2) same

theorem fixed_domain {w w' : World} (same : w'.fixed = w.fixed) : w'.domain = w.domain :=
  congrArg Prod.fst same

@[simp] theorem putNode_hosts (w : World) (n : ComputeNode) : (w.putNode n).hosts = w.hosts := by
  unfold putNode
  split <;> rfl

@[simp] theorem putNode_fixed (w : World) (n : ComputeNode) : (w.putNode n).fixed = w.fixed := by
  unfold putNode
  split <;> rfl

@[simp] theorem putHost_nodes (w : World) (h : SessionHost) : (w.putHost h).nodes = w.nodes := by
  unfold putHost
  split <;> rfl

@[simp] theorem putHost_fixed (w : World) (h : SessionHost) : (w.putHost h).fixed = w.fixed := by
  unfold putHost
  split <;> rfl

/-! Nodes and records found and replaced in place. -/

theorem node?_str {w : World} {x : String} {n : ComputeNode} (found : w.node? (.str x) = some n) :
    n ∈ w.nodes ∧ n.id = .str x := by
  unfold node? at found
  have matched := List.find?_some found
  exact ⟨List.mem_of_find?_eq_some found, Value.same_str matched⟩

theorem putNode_ids {w : World} {x : String} {n : ComputeNode} (found : w.node? (.str x) = some n)
    (st : NodeState) : (w.putNode { n with state := st }).nodes.map (·.id) = w.nodes.map (·.id) := by
  obtain ⟨member, named⟩ := node?_str found
  have present : w.nodes.any (·.id.same n.id) = true := by
    refine List.any_eq_true.mpr ⟨n, member, ?_⟩
    rw [named]
    simp [Value.same]
  simp only [putNode, present, if_true, List.map_map]
  apply List.map_congr_left
  intro y _
  by_cases same : y.id.same n.id = true
  · simp only [Function.comp, same, if_true]
    rw [named] at same ⊢
    exact (Value.same_str same).symm
  · simp [same]

theorem putNode_found {w : World} {x : String} {n : ComputeNode} (found : w.node? (.str x) = some n)
    (st : NodeState) : (w.putNode { n with state := st }).node? (.str x) = some { n with state := st } := by
  obtain ⟨member, named⟩ := node?_str found
  have present : w.nodes.any (·.id.same n.id) = true := by
    refine List.any_eq_true.mpr ⟨n, member, ?_⟩
    rw [named]
    simp [Value.same]
  unfold node? at found ⊢
  simp only [putNode, present, if_true, List.find?_map]
  have alike : (fun y : ComputeNode => (if y.id.same n.id = true then { n with state := st } else y).id.same
      (.str x)) = fun y => y.id.same (.str x) := by
    funext y
    by_cases same : y.id.same n.id = true
    · have yid : y.id = .str x := by rw [named] at same; exact Value.same_str same
      simp only [yid, named, Value.same_str_self, if_true]
    · simp [same]
  simp only [Function.comp_def, alike, found, Option.map_some]
  have kept : n.id.same n.id = true := by rw [named]; simp [Value.same]
  simp [kept]

theorem mem_putNode {w : World} {m y : ComputeNode} (member : y ∈ (w.putNode m).nodes) :
    y ∈ w.nodes ∨ y = m := by
  unfold putNode at member
  split at member
  · obtain ⟨z, inW, made⟩ := List.mem_map.mp member
    by_cases same : z.id.same m.id = true
    · simp only [same, if_true] at made
      exact .inr made.symm
    · simp only [same, Bool.false_eq_true, if_false] at made
      exact .inl (made ▸ inW)
  · rcases List.mem_append.mp member with inW | added
    · exact .inl inW
    · exact .inr (List.mem_singleton.mp added)

theorem node?_isSome {w : World} {x : String} :
    (w.node? (.str x)).isSome = true ↔ Value.str x ∈ w.nodes.map (·.id) := by
  unfold node?
  rw [List.find?_isSome, List.mem_map]
  constructor
  · rintro ⟨y, member, same⟩
    exact ⟨y, member, Value.same_str same⟩
  · rintro ⟨y, member, named⟩
    exact ⟨y, member, by rw [named]; exact Value.same_str_self x⟩

theorem putNode_fresh {w : World} {n : ComputeNode} {x : String} (named : n.id = .str x)
    (unused : Value.str x ∉ w.nodes.map (·.id)) : (w.putNode n).nodes = w.nodes ++ [n] := by
  have absent : w.nodes.any (·.id.same n.id) = false := by
    rw [List.any_eq_false]
    intro y member same
    rw [named] at same
    exact unused (List.mem_map.mpr ⟨y, member, Value.same_str same⟩)
  simp only [putNode, absent, Bool.false_eq_true, if_false]

theorem node?_fresh {w : World} {n : ComputeNode} {x : String} (named : n.id = .str x)
    (unused : Value.str x ∉ w.nodes.map (·.id)) {w' : World} (nodes : w'.nodes = w.nodes ++ [n]) :
    w'.node? (.str x) = some n := by
  unfold node?
  rw [nodes, List.find?_append]
  have none : w.nodes.find? (·.id.same (.str x)) = none := by
    rw [List.find?_eq_none]
    intro y member same
    exact unused (List.mem_map.mpr ⟨y, member, Value.same_str same⟩)
  rw [none]
  simp [named]

theorem putHost_fresh {w : World} {h : SessionHost} {x : String} (named : h.name = .str x)
    (unnamed : ∀ y ∈ w.hosts, y.name ≠ .str x) : (w.putHost h).hosts = w.hosts ++ [h] := by
  have absent : w.hosts.any (·.name.same h.name) = false := by
    rw [List.any_eq_false]
    intro y member same
    rw [named] at same
    exact unnamed y member (Value.same_str same)
  simp only [putHost, absent, Bool.false_eq_true, if_false]

theorem host?_fresh {w : World} {x : String} (unnamed : ∀ y ∈ w.hosts, y.name ≠ .str x) :
    w.host? (.str x) = none := by
  unfold host?
  rw [List.find?_eq_none]
  intro y member same
  exact unnamed y member (Value.same_str same)

theorem host?_unique {w : World} {h : SessionHost} (member : h ∈ w.hosts)
    (unique : ∀ x ∈ w.hosts, x.name.same h.name = true → x = h) (self : h.name.same h.name = true) :
    w.host? h.name = some h := by
  unfold host?
  rcases found : w.hosts.find? (·.name.same h.name) with _ | x
  · exact absurd (List.find?_eq_none.mp found h member) (by simp [self])
  · have matched := List.find?_some found
    rw [found, unique x (List.mem_of_find?_eq_some found) matched]

theorem putHost_unique {w : World} {h : SessionHost} (member : h ∈ w.hosts)
    (unique : ∀ x ∈ w.hosts, x.name.same h.name = true → x = h) (self : h.name.same h.name = true)
    (st : Value) :
    (w.putHost { h with status := st }).hosts =
      w.hosts.map fun x => if x.name.same h.name then { x with status := st } else x := by
  have present : w.hosts.any (·.name.same h.name) = true := List.any_eq_true.mpr ⟨h, member, self⟩
  simp only [putHost, present, if_true]
  apply List.map_congr_left
  intro x inW
  by_cases same : x.name.same h.name = true
  · rw [unique x inW same]
  · simp [same]

end World

namespace SessionHost

/-- The node a host's name names, or nothing for a name that does not parse. -/
def nodeText (h : SessionHost) : String :=
  match h.parts with
  | .ok parts => parts.node
  | .error _ => ""

theorem nodeText_hostText {p d l : String} (naming : Naming p d) (label : Label l) {h : SessionHost}
    (named : h.name = .str (hostText p l d)) : h.nodeText = l := by
  rw [nodeText, parts_hostText naming label named]

end SessionHost

namespace Pass

variable {τ α β : Type}

theorem exec_fanOut_steps (f : α → Pass (StateM τ) β) (step : α → τ → τ)
    (each : ∀ a b t, (exec (f a) b t).books = b ∧ (exec (f a) b t).state = step a t)
    (xs : List α) (b : Books) (t : τ) :
    ∃ outs, exec (fanOut f xs) b t = ⟨.ok outs, b, xs.foldl (fun t a => step a t) t⟩ := by
  induction xs generalizing t with
  | nil => exact ⟨[], rfl⟩
  | cons x xs later =>
    obtain ⟨books, state⟩ := each x b t
    obtain ⟨outs, rest⟩ := later (step x t)
    refine ⟨(x, (exec (f x) b t).outcome) :: outs, ?_⟩
    rw [fanOut_cons, exec_bind, exec_attempt]
    dsimp only
    rw [books, state, exec_bind, rest]
    rfl

end Pass

variable (env : Env) (watch : Bool) {p d : String} (naming : Naming p d)

/-- A host record of pool `p` named after a plain node. -/
def PoolNamed (p d : String) (h : SessionHost) : Prop := ∃ l, Label l ∧ h.name = .str (hostText p l d)

section Purging

include naming

/-- A purge in a calm world deletes the record and the node behind it. -/
theorem purge_calm {sc : Scene} (calm : sc.world.fail = {}) {h : SessionHost} {l : String}
    (label : Label l) (named : h.name = .str (hostText p l d)) :
    ∃ w, (Lifecycle.purge (Scene.services env watch) h).run sc =
        (⟨h.name, true, true, some l, "purged"⟩, { sc with world := w }) ∧
      w.hosts = sc.world.hosts.filter (fun x => !x.name.same h.name) ∧
      w.nodes = sc.world.nodes.filter (fun n => !n.id.same (.str l)) ∧ w.fixed = sc.world.fixed := by
  let w1 : World := { sc.world.dropHost h.name with
    log := { sc.world.log with deletedHosts := sc.world.log.deletedHosts ++ [h.name] } }
  refine ⟨{ w1.dropNode (.str l) with
    log := { w1.log with deletedNodes := w1.log.deletedNodes ++ [.str l] } }, ?_, rfl, rfl, rfl⟩
  have calm' : w1.fail = {} := calm
  have dropped : ((Scene.services env watch).directory.deleteHost h).run sc =
      (.ok (), { sc with world := w1 }) := by
    show (Scene.plain (World.deleteHost h)).run sc = _
    rw [Scene.plain_run, World.deleteHost_calm calm h named]
  have deleted : ((Scene.services env watch).compute.delete (.str l)).run { sc with world := w1 } =
      (.ok (), { sc with world := { w1.dropNode (.str l) with
        log := { w1.log with deletedNodes := w1.log.deletedNodes ++ [.str l] } } }) := by
    show (Scene.plain (World.delete (.str l))).run _ = _
    rw [Scene.plain_run, World.delete_calm calm']
  unfold Lifecycle.purge
  simp only [SessionHost.parts_hostText naming label named, StateM.run_bind, StateM.run_pure,
    dropped, deleted]
  rfl

theorem purges_calm {sc : Scene} (calm : sc.world.fail = {}) (hosts : List SessionHost)
    (named : ∀ h ∈ hosts, PoolNamed p d h) :
    ∃ w, hosts.foldl (fun sc h => ((Lifecycle.purge (Scene.services env watch) h).run sc).2) sc =
        { sc with world := w } ∧
      w.hosts = sc.world.hosts.filter (fun x => hosts.all fun h => !x.name.same h.name) ∧
      w.nodes = sc.world.nodes.filter (fun n => hosts.all fun h => !n.id.same (.str h.nodeText)) ∧
      w.fixed = sc.world.fixed := by
  induction hosts generalizing sc with
  | nil => exact ⟨sc.world, rfl, by simp, by simp, rfl⟩
  | cons h hosts later =>
    obtain ⟨l, label, first⟩ := named h List.mem_cons_self
    obtain ⟨w1, purged, hosts1, nodes1, fixed1⟩ := purge_calm env watch naming calm label first
    have calm1 : ({ sc with world := w1 } : Scene).world.fail = {} :=
      (World.fixed_fail fixed1).trans calm
    obtain ⟨w, folded, hosts2, nodes2, fixed2⟩ :=
      later calm1 fun g member => named g (List.mem_cons_of_mem h member)
    refine ⟨w, ?_, ?_, ?_, fixed2.trans fixed1⟩
    · rw [List.foldl_cons, purged, folded]
    · rw [hosts2, show w1.hosts = _ from hosts1, List.filter_filter]
      congr 1
      funext x
      simp only [List.all_cons, Bool.and_comm]
    · rw [nodes2, show w1.nodes = _ from nodes1, List.filter_filter]
      congr 1
      funext n
      simp only [List.all_cons, SessionHost.nodeText_hostText naming label first, Bool.and_comm]

/-- Purging hosts in a calm world deletes their records and the nodes behind them, keeping the
books. -/
theorem purgeAll_calm {sc : Scene} (calm : sc.world.fail = {}) (hosts : List SessionHost)
    (named : ∀ h ∈ hosts, PoolNamed p d h) (b : Books) :
    ∃ results w, exec (purgeAll (Scene.services env watch) hosts) b sc =
        ⟨.ok results, b, { sc with world := w }⟩ ∧
      w.hosts = sc.world.hosts.filter (fun x => hosts.all fun h => !x.name.same h.name) ∧
      w.nodes = sc.world.nodes.filter (fun n => hosts.all fun h => !n.id.same (.str h.nodeText)) ∧
      w.fixed = sc.world.fixed := by
  obtain ⟨w, folded, facts⟩ := purges_calm env watch naming calm hosts named
  obtain ⟨outs, fanned⟩ := exec_fanOut_steps
    (fun h => ((Lifecycle.purge (Scene.services env watch) h : StateM Scene PurgeResult) :
      Pass (StateM Scene) PurgeResult))
    (fun h sc => ((Lifecycle.purge (Scene.services env watch) h).run sc).2)
    (fun h b t => ⟨rfl, rfl⟩) hosts b sc
  refine ⟨outs.filterMap fun o => o.2.toOption, w, ?_, facts⟩
  unfold purgeAll
  rw [exec_bind, fanned, folded]
  rfl

/-- Disposing of a surplus in a calm world purges it when the settings delete a surplus, and
keeps it by name otherwise. -/
theorem disposeSurplus_calm (s : Settings) {sc : Scene} (calm : sc.world.fail = {})
    (surplus : List SessionHost) (named : ∀ h ∈ surplus, PoolNamed p d h) (b : Books) :
    let gone := if s.scaling.deleteSurplus.truthy then surplus else []
    ∃ results w, exec (disposeSurplus (Scene.services env watch) s surplus) b sc =
        ⟨.ok (results, if s.scaling.deleteSurplus.truthy then [] else surplus.map (·.name)), b,
          { sc with world := w }⟩ ∧
      w.hosts = sc.world.hosts.filter (fun x => gone.all fun h => !x.name.same h.name) ∧
      w.nodes = sc.world.nodes.filter (fun n => gone.all fun h => !n.id.same (.str h.nodeText)) ∧
      w.fixed = sc.world.fixed := by
  intro gone
  unfold disposeSurplus
  by_cases empty : surplus = []
  · subst empty
    refine ⟨[], sc.world, ?_, by simp [gone], by simp [gone], rfl⟩
    simp only [List.isEmpty_nil, if_true, List.map_nil, ite_self]
    rfl
  have full : surplus.isEmpty = false := by simpa using empty
  by_cases deleting : s.scaling.deleteSurplus.truthy = true
  · obtain ⟨results, w, purged, facts⟩ := purgeAll_calm env watch naming calm surplus named b
    refine ⟨results, w, ?_, by simpa [gone, deleting] using facts⟩
    simp only [full, deleting, Bool.false_eq_true, if_false, if_true, exec_bind, purged]
    rfl
  · refine ⟨[], sc.world, ?_, by simp [gone, deleting], by simp [gone, deleting], rfl⟩
    simp only [full, deleting, Bool.false_eq_true, if_false]
    rfl

end Purging

def SessionHost.markAvailable (h : SessionHost) : SessionHost := { h with status := .str "Available" }

section Waking

include naming

/-- Waking a sleeping host of the pool in a calm world starts the node behind it and makes its
record, the only one of its name, `Available`. -/
theorem wake_calm (s : Settings) {sc : Scene} (calm : sc.Calm watch)
    (domain : sc.world.domain = .str d) {h : SessionHost} {l : String} (label : Label l)
    (named : h.name = .str (hostText p l d)) (member : h ∈ sc.world.hosts)
    (unique : ∀ x ∈ sc.world.hosts, x.name.same h.name = true → x = h) {n : ComputeNode}
    (found : sc.world.node? (.str l) = some n) (b : Books) :
    ∃ sc', exec (wake (Scene.services env watch) s (.str p) h) b sc =
        ⟨.ok h.markAvailable, b, sc'⟩ ∧
      sc'.hooks = sc.hooks ∧ sc'.drawn = sc.drawn ∧ sc'.world.fixed = sc.world.fixed ∧
      sc'.world.hosts = sc.world.hosts.map (fun x =>
        if x.name.same h.name then { x with status := .str "Available" } else x) ∧
      sc'.world.nodes = (sc.world.putNode { n with state := .running }).nodes := by
  have self : h.name.same h.name = true := by rw [named]; exact Value.same_str_self _
  have started : Scene.Acts (World.start (.str l))
      ((Scene.services env watch).compute.start (.str l)) sc :=
    Scene.hooked_acts "start" .compute (World.start (.str l)) calm.unhooked calm.unstopped
  have startRun := World.start_calm calm.unfailing l found
  set sc1 := ((Scene.services env watch).compute.start (.str l)).run sc |>.2 with sc1_def
  have world1 : sc1.world = { sc.world.putNode { n with state := .running } with
      log := { (sc.world.putNode { n with state := .running }).log with
        started := (sc.world.putNode { n with state := .running }).log.started ++ [.str l] } } := by
    have moved := started.world
    rw [startRun] at moved
    exact moved
  have calm1 : sc1.Calm watch := Scene.Calm.of_hooks calm started.hooks (by
    rw [world1]
    exact World.fixed_fail (World.putNode_fixed _ _))
  have waited : Scene.Acts (World.waitReady (.str p) (.str l) s.timeouts.resumeReady)
      ((Scene.services env watch).directory.waitReady (.str p) (.str l) s.timeouts.resumeReady) sc1 :=
    Scene.hooked_acts "wait_for_ready" .directory
      (World.waitReady (.str p) (.str l) s.timeouts.resumeReady) calm1.unhooked calm1.unstopped
  have found1 : sc1.world.node? (.str l) = some { n with state := .running } := by
    rw [world1]
    exact World.putNode_found found .running
  have waitRun := World.waitReady_calm calm1.unfailing (.str p) l s.timeouts.resumeReady found1 rfl
  have hostName : sc1.world.hostName (.str p) (.str l) = hostText p l d := by
    rw [World.hostName_text, world1]
    show (Value.str p).text ++ "/" ++ (Value.str l).text ++ "." ++
      (sc.world.putNode _).domain.text = _
    rw [World.putNode_domain, domain]
    rfl
  have record : sc1.world.readyRecord (.str (sc1.world.hostName (.str p) (.str l))) =
      h.markAvailable := by
    have hosts1 : sc1.world.hosts = sc.world.hosts := by
      rw [world1]
      exact World.putNode_hosts _ _
    have present : sc1.world.host? h.name = some h := by
      unfold World.host?
      rw [hosts1]
      exact World.host?_unique member unique self
    rw [World.readyRecord, hostName, ← named, present]
    rfl
  refine ⟨_, ?_, waited.hooks.trans started.hooks, waited.drawn.trans started.drawn, ?_, ?_, ?_⟩
  · unfold wake
    rw [exec_bind, exec_check, SessionHost.parts_hostText naming label named]
    dsimp only
    rw [exec_bind, Scene.exec_call_acts started, startRun]
    dsimp only
    rw [Scene.exec_call_acts waited, waitRun, record]
  · rw [waited.world, waitRun, record]
    dsimp only
    rw [World.putHost_fixed]
    show sc1.world.fixed = _
    rw [world1]
    exact World.putNode_fixed _ _
  · have hosts1 : sc1.world.hosts = sc.world.hosts := by
      rw [world1]
      exact World.putNode_hosts _ _
    rw [waited.world, waitRun, record]
    dsimp only
    unfold SessionHost.markAvailable
    rw [World.putHost_unique (hosts1 ▸ member) (hosts1 ▸ unique) self]
    rw [← hosts1]
  · rw [waited.world, waitRun, record]
    dsimp only
    rw [World.putHost_nodes]
    show sc1.world.nodes = _
    rw [world1]

end Waking

def World.awaken (woken : List SessionHost) (records : List SessionHost) : List SessionHost :=
  records.map fun x => if woken.any (fun h => x.name.same h.name) then x.markAvailable else x

theorem World.awaken_nil (records : List SessionHost) : World.awaken [] records = records := by
  simp [World.awaken]

theorem World.awaken_cons (h : SessionHost) (rest records : List SessionHost) :
    World.awaken rest (records.map fun x =>
        if x.name.same h.name then { x with status := .str "Available" } else x) =
      World.awaken (h :: rest) records := by
  simp only [World.awaken, List.map_map]
  apply List.map_congr_left
  intro x _
  by_cases first : x.name.same h.name = true
  · simp [first, SessionHost.markAvailable]
  · simp [first, SessionHost.markAvailable]

/-- The sleeping hosts a resume works through, as they stand in the world: records of the pool
named after plain nodes, each the only record of its name and backed by a node in the world,
with distinct names. -/
structure Sleeping (p d : String) (w : World) (queue : List SessionHost) : Prop where
  named : ∀ h ∈ queue, PoolNamed p d h
  present : ∀ h ∈ queue, h ∈ w.hosts
  unique : ∀ h ∈ queue, ∀ x ∈ w.hosts, x.name.same h.name = true → x = h
  backed : ∀ h ∈ queue, Value.str h.nodeText ∈ w.nodes.map (·.id)
  distinct : (queue.map (·.name)).Nodup

theorem Sleeping.after_wake {w w' : World} {h : SessionHost} {queue : List SessionHost}
    (sleeping : Sleeping p d w (h :: queue))
    (hosts : w'.hosts = w.hosts.map fun x =>
      if x.name.same h.name then { x with status := .str "Available" } else x)
    (ids : w'.nodes.map (·.id) = w.nodes.map (·.id)) : Sleeping p d w' queue := by
  -- the hosts left in the queue are named apart from the one woken
  have apart : ∀ x ∈ queue, x.name.same h.name = false := by
    intro x member
    obtain ⟨l, -, named⟩ := sleeping.named h List.mem_cons_self
    obtain ⟨l', -, named'⟩ := sleeping.named x (List.mem_cons_of_mem h member)
    have differ : x.name ≠ h.name := by
      intro same
      have nodup := sleeping.distinct
      rw [List.map_cons, List.nodup_cons] at nodup
      exact nodup.1 (same ▸ List.mem_map_of_mem member)
    rw [named, named'] at differ ⊢
    simpa [Value.same] using differ
  refine ⟨fun x member => sleeping.named x (List.mem_cons_of_mem h member), ?_, ?_, ?_, ?_⟩
  · intro x member
    rw [hosts]
    refine List.mem_map.mpr ⟨x, sleeping.present x (List.mem_cons_of_mem h member), ?_⟩
    simp [apart x member]
  · intro x member y inW' same
    rw [hosts] at inW'
    obtain ⟨z, inW, made⟩ := List.mem_map.mp inW'
    have named : y.name = z.name := by
      rw [← made]
      split <;> rfl
    have found := sleeping.unique x (List.mem_cons_of_mem h member) z inW (named ▸ same)
    subst found
    rw [← made]
    simp [apart z member]
  · intro x member
    rw [ids]
    exact sleeping.backed x (List.mem_cons_of_mem h member)
  · have nodup := sleeping.distinct
    rw [List.map_cons, List.nodup_cons] at nodup
    exact nodup.2

section Resuming

include naming

/-- A resume in a calm world wakes the sleeping hosts from the front of the queue, each once,
while fewer than the target are up, and every one of them wakes. -/
theorem resume_calm (s : Settings) (T : Int) {sc : Scene} (calm : sc.Calm watch)
    (domain : sc.world.domain = .str d) (queue : List SessionHost)
    (sleeping : Sleeping p d sc.world queue) (pr : Progress) (b : Books) :
    ∃ sc', exec (resume (Scene.services env watch) s (.str p) (.int T) queue pr) b sc =
        ⟨.ok ({ pr with
            up := pr.up ++ (queue.take (min queue.length (T - pr.up.length).toNat)).map
              SessionHost.markAvailable,
            resumed := pr.resumed ++
              (queue.take (min queue.length (T - pr.up.length).toNat)).map (·.name) },
          queue.drop (min queue.length (T - pr.up.length).toNat)), b, sc'⟩ ∧
      sc'.hooks = sc.hooks ∧ sc'.drawn = sc.drawn ∧ sc'.world.fixed = sc.world.fixed ∧
      sc'.world.hosts = World.awaken (queue.take (min queue.length (T - pr.up.length).toNat))
        sc.world.hosts ∧
      sc'.world.nodes.map (·.id) = sc.world.nodes.map (·.id) ∧
      ∀ y ∈ sc'.world.nodes, ∃ z ∈ sc.world.nodes, y.id = z.id ∧ y.tags = z.tags := by
  induction queue generalizing pr sc with
  | nil =>
    refine ⟨sc, ?_, rfl, rfl, rfl, by simp [World.awaken_nil], rfl,
      fun y member => ⟨y, member, rfl, rfl⟩⟩
    unfold resume
    simp
  | cons h queue later =>
    unfold resume
    rw [exec_bind, exec_short]
    dsimp only
    by_cases short : (pr.up.length : Int) < T
    · -- past the checkpoint the first host wakes, and the rest of the queue follows
      have none : min (queue.length + 1) (T - pr.up.length).toNat =
          min queue.length (T - (pr.up ++ [h.markAvailable]).length).toNat + 1 := by
        simp only [List.length_append, List.length_singleton]
        omega
      obtain ⟨l, label, named⟩ := sleeping.named h List.mem_cons_self
      have labelled := SessionHost.nodeText_hostText naming label named
      obtain ⟨n, found⟩ : ∃ n, sc.world.node? (.str l) = some n := by
        have backed := sleeping.backed h List.mem_cons_self
        rw [labelled, ← World.node?_isSome] at backed
        exact Option.isSome_iff_exists.mp backed
      obtain ⟨sc1, woke, hooks1, drawn1, fixed1, hosts1, nodes1⟩ :=
        wake_calm env watch naming s calm domain label named (sleeping.present h List.mem_cons_self)
          (sleeping.unique h List.mem_cons_self) found b
      have ids1 : sc1.world.nodes.map (·.id) = sc.world.nodes.map (·.id) := by
        rw [nodes1]
        exact World.putNode_ids found .running
      have calm1 : sc1.Calm watch := Scene.Calm.of_hooks calm hooks1 (World.fixed_fail fixed1)
      obtain ⟨sc', rest, hooks2, drawn2, fixed2, hosts2, ids2, nodes2⟩ :=
        later calm1 ((World.fixed_domain fixed1).trans domain) (sleeping.after_wake hosts1 ids1)
          { pr with up := pr.up ++ [h.markAvailable], resumed := pr.resumed ++ [h.name] }
      refine ⟨sc', ?_, hooks2.trans hooks1, drawn2.trans drawn1, fixed2.trans fixed1, ?_,
        ids2.trans ids1, ?_⟩
      · simp only [short, decide_true, Bool.not_true, Bool.false_eq_true, if_false]
        rw [exec_bind, Scene.exec_checkpoint_calm env watch calm]
        dsimp only
        rw [exec_bind, exec_attempt, woke]
        dsimp only
        rw [rest]
        simp only [List.length_cons, none, List.take_succ_cons, List.drop_succ_cons, List.map_cons,
          List.append_assoc, List.singleton_append]
      · rw [hosts2, hosts1, World.awaken_cons, List.length_cons, none, List.take_succ_cons]
      · intro y member
        obtain ⟨z, inW1, sameId, sameTags⟩ := nodes2 y member
        rw [nodes1] at inW1
        rcases World.mem_putNode inW1 with inW | made
        · exact ⟨z, inW, sameId, sameTags⟩
        · refine ⟨n, (World.node?_str found).1, ?_, ?_⟩
          · rw [sameId, made]
          · rw [sameTags, made]
    · -- enough hosts are up: nothing is tried
      have none : min (queue.length + 1) (T - pr.up.length).toNat = 0 := by omega
      refine ⟨sc, ?_, rfl, rfl, rfl, ?_, rfl, fun y member => ⟨y, member, rfl, rfl⟩⟩
      · simp only [short, decide_false, Bool.not_false, if_true, List.length_cons, none,
          List.take_zero, List.drop_zero, List.map_nil, List.append_nil]
        rfl
      · simp only [List.length_cons, none, List.take_zero, World.awaken_nil]

end Resuming

theorem stepOf_ok {τ α : Type} {x : Pass (StateM τ) α} {nodeId : String} {step : CreationStep}
    {b b' : Books} {t t' : τ} {a : α} (ran : exec x b t = ⟨.ok a, b', t'⟩) :
    exec (Lifecycle.stepOf nodeId step x) b t = ⟨.ok a, b', t'⟩ := by
  rw [Lifecycle.stepOf, exec_tryCatch, ran]

/-- Settings under which a calm world makes every host it is asked for: the template's tags are
a table, and the setup script builds with the world's token. -/
structure Builds (s : Settings) (token : Value) (env : Env) : Prop where
  tags : ∃ kvs, s.template.tags = .table kvs
  script : ∃ script, SetupScript.build s.setup token env = .ok script

def madeRecord (p i d : String) : SessionHost :=
  { name := .str (hostText p i d), status := .str "Available" }

def madeNode (p i : String) (kvs : List (String × Value)) : ComputeNode :=
  { id := .str i, name := .str i, state := .running, tags := .table (Table.set kvs poolTag (.str p)) }

section Creating

/-- A creation in a calm world, under settings that build, draws the next number and makes a
running node under the id drawn, tagged for the pool, and an `Available` record named after it,
when that id names no node and no record yet. -/
theorem createHost_calm (s : Settings) {sc : Scene} (calm : sc.Calm watch)
    (domain : sc.world.domain = .str d) {kvs : List (String × Value)}
    (tagged : s.template.tags = .table kvs) {script : String}
    (built : SetupScript.build s.setup sc.world.token env = .ok script)
    (unused : Value.str (Lifecycle.nodeIdFor s (sc.drawn + 1)) ∉ sc.world.nodes.map (·.id))
    (unnamed : ∀ x ∈ sc.world.hosts,
      x.name ≠ .str (hostText p (Lifecycle.nodeIdFor s (sc.drawn + 1)) d)) (b : Books) :
    ∃ sc', exec (Lifecycle.create (Scene.services env watch) s (.str p)) b sc =
        ⟨.ok (madeRecord p (Lifecycle.nodeIdFor s (sc.drawn + 1)) d), b, sc'⟩ ∧
      sc'.hooks = sc.hooks ∧ sc'.drawn = sc.drawn + 1 ∧ sc'.world.fixed = sc.world.fixed ∧
      sc'.world.hosts = sc.world.hosts ++ [madeRecord p (Lifecycle.nodeIdFor s (sc.drawn + 1)) d] ∧
      sc'.world.nodes = sc.world.nodes ++ [madeNode p (Lifecycle.nodeIdFor s (sc.drawn + 1)) kvs] := by
  set i := Lifecycle.nodeIdFor s (sc.drawn + 1) with i_def
  set sc0 : Scene := { sc with drawn := sc.drawn + 1 } with sc0_def
  have calm0 : sc0.Calm watch := Scene.Calm.of_hooks calm rfl rfl
  set spec : NodeSpec :=
    { id := .str i, name := .str i, image := s.template.image, size := s.template.size,
      securityType := s.template.securityType, operatingSystem := s.template.operatingSystem,
      tags := .table (Table.set kvs poolTag (.str p)) } with spec_def
  have specified : Lifecycle.nodeSpec s (.str i) (.str p) = .ok spec := by
    simp only [Lifecycle.nodeSpec, tagged]
    rfl
  have creating : Scene.Acts (World.create spec) ((Scene.services env watch).compute.create spec) sc0 :=
    Scene.hooked_acts "create" .compute _ calm0.unhooked calm0.unstopped
  have createRun := World.create_calm calm0.unfailing spec rfl rfl (x := i)
  set sc1 := ((Scene.services env watch).compute.create spec).run sc0 |>.2 with sc1_def
  have moved := creating.world
  rw [createRun] at moved
  have nodes1 : sc1.world.nodes = sc.world.nodes ++ [madeNode p i kvs] := by
    rw [moved]
    exact World.putNode_fresh rfl unused
  have fixed1 : sc1.world.fixed = sc.world.fixed := by
    rw [moved]
    exact World.putNode_fixed _ _
  have hosts1 : sc1.world.hosts = sc.world.hosts := by
    rw [moved]
    exact World.putNode_hosts _ _
  have calm1 : sc1.Calm watch := Scene.Calm.of_hooks calm0 creating.hooks (World.fixed_fail fixed1)
  have tokened : Scene.Acts (World.registrationToken (.str p))
      ((Scene.services env watch).directory.registrationToken (.str p)) sc1 :=
    Scene.hooked_acts "retrieve_registration_token" .directory _ calm1.unhooked calm1.unstopped
  have tokenRun := World.registrationToken_calm calm1.unfailing (.str p) (w := sc1.world)
  set sc2 := ((Scene.services env watch).directory.registrationToken (.str p)).run sc1 |>.2
    with sc2_def
  have world2 : sc2.world = sc1.world := by
    have moved := tokened.world
    rw [tokenRun] at moved
    exact moved
  have token1 : sc1.world.token = sc.world.token := congrArg (fun f => f.2.2.2.2.1) fixed1
  have calm2 : sc2.Calm watch := Scene.Calm.of_hooks calm1 tokened.hooks (by rw [world2])
  have scripted : Scene.Acts (World.runScript (.str i) (.str script) s.timeouts.script
        s.timeouts.scriptPoll)
      ((Scene.services env watch).compute.runScript (.str i) (.str script) s.timeouts.script
        s.timeouts.scriptPoll) sc2 :=
    Scene.hooked_acts "run_remote_script" .compute _ calm2.unhooked calm2.unstopped
  have scriptRun := World.runScript_calm calm2.unfailing (.str i) (.str script) s.timeouts.script
    s.timeouts.scriptPoll
  set sc3 := ((Scene.services env watch).compute.runScript (.str i) (.str script) s.timeouts.script
    s.timeouts.scriptPoll).run sc2 |>.2 with sc3_def
  have world3 : sc3.world = { sc1.world with log := { sc1.world.log with
      scripts := sc1.world.log.scripts ++ [(.str i, .str script)] } } := by
    have moved := scripted.world
    rw [scriptRun, world2] at moved
    exact moved
  have calm3 : sc3.Calm watch := Scene.Calm.of_hooks calm2 scripted.hooks (by rw [world3, world2])
  have waited : Scene.Acts (World.waitReady (.str p) (.str i) s.timeouts.createReady)
      ((Scene.services env watch).directory.waitReady (.str p) (.str i) s.timeouts.createReady) sc3 :=
    Scene.hooked_acts "wait_for_ready" .directory _ calm3.unhooked calm3.unstopped
  have found3 : sc3.world.node? (.str i) = some (madeNode p i kvs) :=
    World.node?_fresh rfl unused (by rw [world3]; exact nodes1)
  have waitRun := World.waitReady_calm calm3.unfailing (.str p) i s.timeouts.createReady found3 rfl
  have hostName : sc3.world.hostName (.str p) (.str i) = hostText p i d := by
    rw [World.hostName_text, world3]
    show (Value.str p).text ++ "/" ++ (Value.str i).text ++ "." ++ sc1.world.domain.text = _
    rw [World.fixed_domain fixed1, domain]
    rfl
  have unnamed3 : ∀ y ∈ sc3.world.hosts, y.name ≠ .str (hostText p i d) := by
    rw [world3]
    exact hosts1 ▸ unnamed
  have record : sc3.world.readyRecord (.str (sc3.world.hostName (.str p) (.str i))) =
      madeRecord p i d := by
    rw [World.readyRecord, hostName, World.host?_fresh unnamed3]
    rfl
  refine ⟨_, ?_, waited.hooks.trans (scripted.hooks.trans (tokened.hooks.trans creating.hooks)),
    by rw [waited.drawn, scripted.drawn, tokened.drawn, creating.drawn], ?_, ?_, ?_⟩
  · have made : exec (do
          let spec ← Pass.check (Lifecycle.nodeSpec s (.str i) (.str p))
          let _ ← Pass.call ((Scene.services env watch).compute.create spec)
          : Pass (StateM Scene) Unit) b sc0 = ⟨.ok (), b, sc1⟩ := by
      rw [exec_bind, exec_check, specified]
      dsimp only
      rw [exec_bind, Scene.exec_call_acts creating b, createRun]
      rfl
    unfold Lifecycle.create
    rw [exec_bind, exec_lift]
    show exec (Lifecycle.build _ s _ i) b sc0 = _
    unfold Lifecycle.build
    rw [exec_bind, stepOf_ok made]
    dsimp only
    have tokenExec : exec (call ((Scene.services env watch).directory.registrationToken (.str p))) b
        sc1 = ⟨.ok sc.world.token, b, sc2⟩ := by
      rw [Scene.exec_call_acts tokened b, tokenRun, token1]
    rw [exec_bind, stepOf_ok tokenExec]
    dsimp only
    have scriptExec : exec (check (SetupScript.build s.setup sc.world.token
        (Scene.services env watch).env) : Pass (StateM Scene) String) b sc2 = ⟨.ok script, b, sc2⟩ := by
      rw [exec_check]
      exact congrArg (fun o => (⟨o, b, sc2⟩ : Ending Scene String)) built
    rw [exec_bind, stepOf_ok scriptExec]
    dsimp only
    have runExec : exec (call ((Scene.services env watch).compute.runScript (.str i) (.str script)
        s.timeouts.script s.timeouts.scriptPoll)) b sc2 = ⟨.ok (), b, sc3⟩ := by
      rw [Scene.exec_call_acts scripted b, scriptRun]
    rw [exec_bind, stepOf_ok runExec]
    dsimp only
    have waitExec : exec (call ((Scene.services env watch).directory.waitReady (.str p) (.str i)
        s.timeouts.createReady)) b sc3 = ⟨.ok (madeRecord p i d), b,
          (((Scene.services env watch).directory.waitReady (.str p) (.str i)
            s.timeouts.createReady).run sc3).2⟩ := by
      rw [Scene.exec_call_acts waited b, waitRun, record]
    rw [stepOf_ok waitExec]
  · rw [waited.world, waitRun, record]
    dsimp only
    rw [World.putHost_fixed]
    show sc3.world.fixed = _
    rw [world3]
    exact fixed1
  · rw [waited.world, waitRun, record]
    dsimp only
    rw [World.putHost_fresh (w := { sc3.world with log := { sc3.world.log with
      readyWaits := sc3.world.log.readyWaits ++ [(.str i, s.timeouts.createReady)] } }) rfl unnamed3]
    show sc3.world.hosts ++ _ = _
    rw [world3]
    exact congrArg (· ++ [madeRecord p i d]) hosts1
  · rw [waited.world, waitRun, record]
    dsimp only
    rw [World.putHost_nodes]
    show sc3.world.nodes = _
    rw [world3]
    exact nodes1

end Creating

end DesktopPool
