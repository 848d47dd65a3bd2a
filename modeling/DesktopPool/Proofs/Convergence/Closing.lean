import DesktopPool.Proofs.Convergence.Stages

/-! The closing stages of a pass in a calm world: creating hosts and sweeping orphan nodes. Node
ids are drawn from fresh numbers counting up from the scene's last; when the ids drawn are
plain, distinct, and carried by no node and no record of the pool yet, every creation attempt
makes its host, and the stage adds the nodes and the `Available` records named after them, in
the order drawn. The sweep, in a world whose nodes have text ids and text tags, deletes exactly
the stray nodes: under the template's prefix, tagged for the pool without regard to case, and
backing no node id the pass knows. -/
namespace DesktopPool

open Pass Reconcile

def drawnIds (s : Settings) (n count : Nat) : List String :=
  (List.range count).map fun k => Lifecycle.nodeIdFor s (n + k + 1)

theorem drawnIds_zero (s : Settings) (n : Nat) : drawnIds s n 0 = [] := rfl

theorem drawnIds_succ (s : Settings) (n count : Nat) :
    drawnIds s n (count + 1) = Lifecycle.nodeIdFor s (n + 1) :: drawnIds s (n + 1) count := by
  unfold drawnIds
  rw [List.range_succ_eq_map, List.map_cons, List.map_map, Nat.add_zero]
  apply congrArg
  apply List.map_congr_left
  intro k _
  rw [Function.comp_apply, show n + (k + 1) + 1 = n + 1 + k + 1 by omega]

theorem drawnIds_sublist (s : Settings) (n : Nat) {count count' : Nat} (fewer : count' ≤ count) :
    (drawnIds s n count').Sublist (drawnIds s n count) := by
  unfold drawnIds
  exact ((List.range_sublist.mpr fewer)).map _

/-- Ids a creation stage may draw in world `w` for pool `p` in domain `d`: plain, distinct, and
carried by no node and no record of the pool yet. -/
structure Fresh (p d : String) (w : World) (ids : List String) : Prop where
  labelled : ∀ i ∈ ids, Label i
  unused : ∀ i ∈ ids, Value.str i ∉ w.nodes.map (·.id)
  unnamed : ∀ i ∈ ids, ∀ x ∈ w.hosts, x.name ≠ .str (hostText p i d)
  distinct : ids.Nodup

namespace Fresh

variable {p d : String} {w : World}

theorem sublist {ids ids' : List String} (fresh : Fresh p d w ids) (sub : ids'.Sublist ids) :
    Fresh p d w ids' where
  labelled i member := fresh.labelled i (sub.subset member)
  unused i member := fresh.unused i (sub.subset member)
  unnamed i member := fresh.unnamed i (sub.subset member)
  distinct := fresh.distinct.sublist sub

theorem tail (naming : Naming p d) {i : String} {ids : List String} (fresh : Fresh p d w (i :: ids))
    {w' : World} {n : ComputeNode} (named : n.id = .str i) (nodes : w'.nodes = w.nodes ++ [n])
    (hosts : w'.hosts = w.hosts ++ [madeRecord p i d]) : Fresh p d w' ids := by
  have other : ∀ j ∈ ids, j ≠ i := fun j member same =>
    (List.nodup_cons.mp fresh.distinct).1 (same ▸ member)
  refine ⟨fun j member => fresh.labelled j (List.mem_cons_of_mem i member), ?_, ?_,
    (List.nodup_cons.mp fresh.distinct).2⟩
  · intro j member used
    rw [nodes, List.map_append, List.mem_append] at used
    rcases used with old | new
    · exact fresh.unused j (List.mem_cons_of_mem i member) old
    · simp only [List.map_cons, List.map_nil, List.mem_singleton, named, Value.str.injEq] at new
      exact other j member new
  · intro j member x inW' same
    rw [hosts, List.mem_append] at inW'
    rcases inW' with old | new
    · exact fresh.unnamed j (List.mem_cons_of_mem i member) x old same
    · rw [List.mem_singleton] at new
      subst new
      have texts : hostText p i d = hostText p j d := by
        simpa [madeRecord] using same
      exact other j member (naming.hostText_inj (fresh.labelled i List.mem_cons_self)
        (fresh.labelled j (List.mem_cons_of_mem i member)) texts).symm

end Fresh

namespace Pass

variable {τ α β : Type}

/-- A fan-out of steps that keep the books and, from states where `inv` holds, answer `answer`
and keep `inv`, ends with every answer, in the order of the items, and with the state the steps
reach one after another. -/
theorem exec_fanOut_answers (f : α → Pass (StateM τ) β) (answer : α → β) (step : α → τ → τ)
    (inv : τ → Prop) (xs : List α)
    (each : ∀ a ∈ xs, ∀ b t, inv t → exec (f a) b t = ⟨.ok (answer a), b, step a t⟩ ∧ inv (step a t))
    (b : Books) (t : τ) (start : inv t) :
    exec (fanOut f xs) b t =
      ⟨.ok (xs.map fun a => (a, .ok (answer a))), b, xs.foldl (fun t a => step a t) t⟩ := by
  induction xs generalizing t with
  | nil => rfl
  | cons x xs later =>
    obtain ⟨ran, kept⟩ := each x List.mem_cons_self b t start
    rw [fanOut_cons, exec_bind, exec_attempt, ran]
    dsimp only
    rw [exec_bind, later (fun a member => each a (List.mem_cons_of_mem x member)) _ kept]
    rfl

end Pass

variable (env : Env) (watch : Bool) {p d : String} (naming : Naming p d)

section Creating

include naming

theorem nodeIds_madeRecord {i : String} (label : Label i) :
    nodeIds [madeRecord p i d] = [i] := by
  rw [nodeIds_single (SessionHost.parts_hostText naming label rfl)]
  exact congrArg (· :: []) label.1.1

/-- The creation stage in a calm world, under settings that build, with fresh ids to draw: every
attempt makes its host, so the stage adds one running node and one `Available` record for each
id drawn, in order, and knows the ids. -/
theorem createHosts_calm (s : Settings) {sc : Scene} (calm : sc.Calm watch)
    (domain : sc.world.domain = .str d) {kvs : List (String × Value)}
    (tagged : s.template.tags = .table kvs) {script : String}
    (built : SetupScript.build s.setup sc.world.token env = .ok script) (count : Nat)
    (fresh : Fresh p d sc.world (drawnIds s sc.drawn count)) (pr : Progress) (b : Books) :
    ∃ sc', exec (createHosts (Scene.services env watch) s (.str p) count pr) b sc =
        ⟨.ok { pr with
            known := pr.known ++ drawnIds s sc.drawn count,
            up := pr.up ++ (drawnIds s sc.drawn count).map (madeRecord p · d),
            created := pr.created ++
              (drawnIds s sc.drawn count).map fun i => Value.str (hostText p i d) }, b, sc'⟩ ∧
      sc'.hooks = sc.hooks ∧ sc'.drawn = sc.drawn + count ∧ sc'.world.fixed = sc.world.fixed ∧
      sc'.world.hosts = sc.world.hosts ++ (drawnIds s sc.drawn count).map (madeRecord p · d) ∧
      sc'.world.nodes = sc.world.nodes ++ (drawnIds s sc.drawn count).map (madeNode p · kvs) := by
  induction count generalizing sc pr with
  | zero =>
    refine ⟨sc, ?_, rfl, rfl, rfl, by simp [drawnIds_zero], by simp [drawnIds_zero]⟩
    simp only [drawnIds_zero, List.append_nil, List.map_nil]
    rfl
  | succ count later =>
    rw [drawnIds_succ] at fresh ⊢
    obtain ⟨sc1, made, hooks1, drawn1, fixed1, hosts1, nodes1⟩ :=
      createHost_calm env watch s calm domain tagged built (fresh.unused _ List.mem_cons_self)
        (fresh.unnamed _ List.mem_cons_self) b
    have calm1 : sc1.Calm watch := Scene.Calm.of_hooks calm hooks1 (World.fixed_fail fixed1)
    have token1 : sc1.world.token = sc.world.token := congrArg (fun f => f.2.2.2.2.1) fixed1
    have fresh1 : Fresh p d sc1.world (drawnIds s sc1.drawn count) := by
      rw [drawn1]
      exact fresh.tail naming rfl nodes1 hosts1
    obtain ⟨sc', rest, hooks2, drawn2, fixed2, hosts2, nodes2⟩ :=
      later calm1 ((World.fixed_domain fixed1).trans domain) (token1 ▸ built) fresh1
        { pr with
          known := pr.known ++ nodeIds [madeRecord p (Lifecycle.nodeIdFor s (sc.drawn + 1)) d],
          up := pr.up ++ [madeRecord p (Lifecycle.nodeIdFor s (sc.drawn + 1)) d],
          created := pr.created ++ [(madeRecord p (Lifecycle.nodeIdFor s (sc.drawn + 1)) d).name] }
    rw [drawn1] at rest hosts2 nodes2
    refine ⟨sc', ?_, hooks2.trans hooks1, by rw [drawn2, drawn1]; omega, fixed2.trans fixed1, ?_, ?_⟩
    · unfold createHosts
      rw [exec_bind, Scene.exec_checkpoint_calm env watch calm]
      dsimp only
      rw [exec_bind, exec_attempt, made]
      dsimp only
      rw [rest, nodeIds_madeRecord naming (fresh.labelled _ List.mem_cons_self)]
      simp only [List.map_cons, List.append_assoc, List.singleton_append]
      rfl
    · rw [hosts2, hosts1]
      simp
    · rw [nodes2, nodes1]
      simp

end Creating

namespace ComputeNode

def ownedText (p : String) (n : ComputeNode) : Bool :=
  match n.tags.entry poolTag with
  | .ok (.str owner) => Unicode.lower owner == Unicode.lower p
  | _ => false

def TextTagged (n : ComputeNode) : Prop := ∃ kvs, n.tags = .table kvs ∧ ∀ kv ∈ kvs, ∃ x, kv.2 = .str x

theorem ownedBy_textTagged {n : ComputeNode} (tagged : n.TextTagged) (p : String) :
    ownedBy (.str p) n = .ok (n.ownedText p) := by
  obtain ⟨kvs, table, texts⟩ := tagged
  unfold ownedBy ownedText
  rw [table]
  simp only [Value.entry, Value.entryD]
  rcases found : kvs.lookup poolTag with _ | owner
  · rfl
  · obtain ⟨front, back, split, -⟩ := List.lookup_eq_some_iff.mp found
    obtain ⟨x, rfl⟩ := texts (poolTag, owner) (by rw [split]; simp)
    rfl

/-- Whether the sweep of pool `p` deletes a node, for a template prefix `pre` and the node ids a
pass knows: its id starts with the prefix, it is tagged for the pool, and its id, lower-cased,
is none of those known. -/
def stray (pre p : String) (known : List String) (n : ComputeNode) : Bool :=
  match n.id with
  | .str x => x.startsWith pre && n.ownedText p && !known.contains (Unicode.lower x)
  | _ => false

end ComputeNode

namespace Scene

theorem deletes_calm {sc : Scene} (calm : sc.world.fail = {}) (ids : List Value)
    (texts : ∀ id ∈ ids, ∃ x, id = .str x) :
    ∃ w, ids.foldl (fun sc id => (((services env watch).compute.delete id).run sc).2) sc =
        { sc with world := w } ∧
      w.nodes = sc.world.nodes.filter (fun n => ids.all fun id => !n.id.same id) ∧
      w.hosts = sc.world.hosts ∧ w.fixed = sc.world.fixed := by
  induction ids generalizing sc with
  | nil => exact ⟨sc.world, rfl, by simp, rfl, rfl⟩
  | cons id ids later =>
    obtain ⟨x, rfl⟩ := texts id List.mem_cons_self
    set w1 : World := { sc.world.dropNode (.str x) with
      log := { sc.world.log with deletedNodes := sc.world.log.deletedNodes ++ [.str x] } }
    have deleted : (((services env watch).compute.delete (.str x)).run sc).2 =
        { sc with world := w1 } := by
      show ((plain (World.delete (.str x))).run sc).2 = _
      rw [plain_run, World.delete_calm calm]
    obtain ⟨w, folded, nodes, hosts, fixed⟩ :=
      later (show ({ sc with world := w1 } : Scene).world.fail = {} from calm) fun id member =>
        texts id (List.mem_cons_of_mem _ member)
    refine ⟨w, by rw [List.foldl_cons, deleted, folded], ?_, hosts, fixed⟩
    rw [nodes]
    show (sc.world.nodes.filter fun n => !n.id.same (.str x)).filter _ = _
    rw [List.filter_filter]
    congr 1
    funext n
    simp only [List.all_cons, Bool.and_comm]

/-- The orphan sweep in a calm world whose nodes have text ids and text tags deletes the stray
nodes: those under the template's prefix, tagged for the pool, that back no node the pass
knows. -/
theorem sweep_calm (s : Settings) {sc : Scene} (calm : sc.Calm watch) {pre p : String}
    (prefixed : s.template.namePrefix = .str pre)
    (tidy : ∀ n ∈ sc.world.nodes, (∃ x, n.id = .str x) ∧ n.TextTagged) (known : List String)
    (b : Books) :
    ∃ sc', exec (sweep (services env watch) s (.str p) known) b sc =
        ⟨.ok ((sc.world.nodes.filter (ComputeNode.stray pre p known)).map (·.id)), b, sc'⟩ ∧
      sc'.hooks = sc.hooks ∧ sc'.drawn = sc.drawn ∧ sc'.world.fixed = sc.world.fixed ∧
      sc'.world.hosts = sc.world.hosts ∧
      sc'.world.nodes = sc.world.nodes.filter (fun n =>
        ((sc.world.nodes.filter (ComputeNode.stray pre p known)).map (·.id)).all fun id =>
          !n.id.same id) := by
  set strays := sc.world.nodes.filter (ComputeNode.stray pre p known) with strays_def
  -- the listing under the prefix, then the two tests, make one filter by the stray test
  have under : ∀ n ∈ sc.world.nodes, n.id.startsWith (.str pre) =
      .ok (match n.id with | .str x => x.startsWith pre | _ => false) := by
    intro n member
    obtain ⟨x, named⟩ := (tidy n member).1
    rw [named]
    rfl
  have listed : (World.listAll (.str pre)).run sc.world =
      (.ok (sc.world.nodes.filter fun n => match n.id with | .str x => x.startsWith pre | _ => false),
        sc.world) := by
    rw [World.listAll_calm calm.unfailing]
    by_cases empty : pre = ""
    · subst empty
      have all : sc.world.nodes.filter (fun n => match n.id with
          | .str x => x.startsWith "" | _ => false) = sc.world.nodes := by
        rw [List.filter_eq_self]
        intro n member
        obtain ⟨x, named⟩ := (tidy n member).1
        rw [named]
        exact String.startsWith_string_empty
      rw [all]
      rfl
    · have truthy : (Value.str pre).truthy = true := by simpa [Value.truthy] using empty
      rw [truthy, Outcome.filterM_of_ok under]
      rfl
  have owned : ∀ n ∈ sc.world.nodes, ownedBy (.str p) n = .ok (n.ownedText p) :=
    fun n member => ComputeNode.ownedBy_textTagged (tidy n member).2 p
  have lowered : ∀ n ∈ sc.world.nodes, (do pure !(known.contains (← n.id.lower)) : Outcome Bool) =
      .ok (match n.id with | .str x => !known.contains (Unicode.lower x) | _ => false) := by
    intro n member
    obtain ⟨x, named⟩ := (tidy n member).1
    rw [named]
    rfl
  have strayed : ((sc.world.nodes.filter fun n => match n.id with
        | .str x => x.startsWith pre | _ => false).filter (ComputeNode.ownedText p)).filter
        (fun n => match n.id with | .str x => !known.contains (Unicode.lower x) | _ => false) =
      strays := by
    rw [List.filter_filter, List.filter_filter, strays_def]
    apply List.filter_congr
    intro n member
    obtain ⟨x, named⟩ := (tidy n member).1
    simp only [ComputeNode.stray, named, Bool.and_comm, Bool.and_assoc]
  have texts : ∀ id ∈ strays.map (·.id), ∃ x, id = .str x := by
    intro id member
    obtain ⟨n, inStrays, rfl⟩ := List.mem_map.mp member
    exact (tidy n (List.mem_of_mem_filter inStrays)).1
  have listing : Acts (World.listAll (.str pre)) ((services env watch).compute.listAll (.str pre)) sc :=
    hooked_acts "list_all" .compute _ calm.unhooked calm.unstopped
  set sc1 := (((services env watch).compute.listAll (.str pre)).run sc).2 with sc1_def
  have world1 : sc1.world = sc.world := by rw [listing.world, listed]
  have calm1 : sc1.Calm watch := Calm.of_hooks calm listing.hooks (by rw [world1])
  have deleted := Pass.exec_fanOut_answers (fun id => Pass.call ((services env watch).compute.delete id))
    (fun _ => ()) (fun id sc => (((services env watch).compute.delete id).run sc).2)
    (fun sc => sc.world.fail = {}) (strays.map (·.id)) (by
      intro id member b t quiet
      obtain ⟨x, rfl⟩ := texts id member
      have ran : ((services env watch).compute.delete (.str x)).run t =
          (.ok (), { t with world := { t.world.dropNode (.str x) with
            log := { t.world.log with deletedNodes := t.world.log.deletedNodes ++ [.str x] } } }) := by
        show (plain (World.delete (.str x))).run t = _
        rw [plain_run, World.delete_calm quiet]
      rw [Pass.exec_call, ran]
      exact ⟨rfl, quiet⟩) b sc1 calm1.unfailing
  obtain ⟨w, folded, nodes, hosts, fixed⟩ :=
    deletes_calm env watch calm1.unfailing (strays.map (·.id)) texts
  refine ⟨{ sc1 with world := w }, ?_, listing.hooks, listing.drawn, by rw [fixed, world1],
    by rw [hosts, world1], by rw [nodes, world1]⟩
  unfold sweep
  rw [prefixed, Pass.exec_bind, Pass.exec_lift, listing.answer, listed]
  dsimp only
  rw [Pass.exec_bind, Pass.exec_check, Outcome.filterM_of_ok (fun n member => owned n
    (List.mem_of_mem_filter member))]
  dsimp only
  rw [Pass.exec_bind, Pass.exec_check, Outcome.filterM_of_ok (fun n member => lowered n
    (List.mem_of_mem_filter (List.mem_of_mem_filter member))), strayed]
  dsimp only
  rw [Pass.exec_bind, deleted, folded]
  simp [List.filterMap_map, Except.toOption]

theorem sweepOrphans_on (s : Settings) {sc : Scene} (calm : sc.Calm watch) (on : s.sweepOrphans.truthy = true)
    (pool : Value) (known : List String) (b : Books) :
    exec (sweepOrphans (services env watch) s pool known) b sc =
      exec (sweep (services env watch) s pool known) b sc := by
  unfold sweepOrphans
  rw [if_pos on, Pass.exec_bind, exec_checkpoint_calm env watch calm]

end Scene

end DesktopPool
