import DesktopPool.Proofs.Convergence.Survey

/-! The converging stages of a pass in a calm world, as one step. A world is tidy for a pool when
its nodes carry plain text ids and text tags, its records are named by text, and the pool's
records are named after plain nodes, each name once. From a tidy world the stages purge the
stale records with their nodes, wake sleeping hosts from the front while hosts are missing,
make one host for each host still missing, delete or keep the rest as the settings say, and
sweep the strays; `Converged` records what they leave. From a world where the pool has settled
they change nothing. -/
namespace DesktopPool

open Pass Reconcile

namespace Classification

/-- How many sleeping hosts a calm pass wakes towards `T` hosts up: as many as are missing, and
no more than sleep. -/
def wakeCount (C : Classification) (T : Int) : Nat := min C.resumable.length (T - C.up.length).toNat

def woken (C : Classification) (T : Int) : List SessionHost := C.resumable.take (C.wakeCount T)

def left (C : Classification) (T : Int) : List SessionHost := C.resumable.drop (C.wakeCount T)

def missing (C : Classification) (T : Int) : Nat := (T - (C.up.length + C.wakeCount T : Nat)).toNat

def gone (C : Classification) (s : Settings) (T : Int) : List SessionHost :=
  if s.scaling.deleteSurplus.truthy then C.left T else []

def kept (C : Classification) (s : Settings) (T : Int) : List SessionHost :=
  if s.scaling.deleteSurplus.truthy then [] else C.left T

theorem woken_append_left (C : Classification) (T : Int) : C.woken T ++ C.left T = C.resumable :=
  List.take_append_drop _ _

end Classification

namespace World

/-- A world in which a pass of pool `p` in domain `d` converges: nodes carry plain text ids and
text tags, records are named by text, and the pool's records are named after plain nodes, each
name once. -/
structure Tidy (p d : String) (w : World) : Prop where
  domain : w.domain = .str d
  nodes : ∀ n ∈ w.nodes, (∃ x, Plain x ∧ n.id = .str x) ∧ n.TextTagged
  names : ∀ h ∈ w.hosts, ∃ x, h.name = .str x
  pooled : ∀ h ∈ w.poolHosts p, PoolNamed p d h
  distinct : ((w.poolHosts p).map (·.name)).Nodup

theorem ComputeNode.all_nodeTexts_iff {gone : List SessionHost} {n : ComputeNode} {x : String}
    (named : n.id = .str x) :
    (gone.all fun g => !n.id.same (.str g.nodeText)) = true ↔ ∀ g ∈ gone, g.nodeText ≠ x := by
  rw [List.all_eq_true, named]
  apply forall₂_congr
  intro g _
  rw [show (Value.str x).same (.str g.nodeText) = (x == g.nodeText) from rfl, Bool.not_eq_true',
    beq_eq_false_iff_ne]
  exact ne_comm

theorem mem_poolHosts {w : World} {p : String} {h : SessionHost} :
    h ∈ w.poolHosts p ↔ h ∈ w.hosts ∧ h.inPool p = true := List.mem_filter


/-! The buckets of a calm classification of the pool. -/

section Buckets

variable {p : String} {w : World}

theorem mem_classes_pool {h : SessionHost}
    (member : h ∈ (w.classes (w.poolHosts p)).up ∨ h ∈ (w.classes (w.poolHosts p)).resumable ∨
      h ∈ (w.classes (w.poolHosts p)).stale) : h ∈ w.poolHosts p := by
  rcases member with up | resumable | stale
  · exact List.mem_of_mem_filter up
  · exact List.mem_of_mem_filter resumable
  · exact List.mem_of_mem_filter stale

theorem resumable_not_stale {h : SessionHost} (resumable : h ∈ (w.classes (w.poolHosts p)).resumable) :
    h ∉ (w.classes (w.poolHosts p)).stale := by
  intro stale
  have woken := (List.mem_filter.mp resumable).2
  have rotten := (List.mem_filter.mp stale).2
  simp only [Bool.and_eq_true, Bool.not_eq_true'] at rotten
  rw [woken] at rotten
  cases rotten.2

theorem up_not_stale {h : SessionHost} (up : h ∈ (w.classes (w.poolHosts p)).up) :
    h ∉ (w.classes (w.poolHosts p)).stale := by
  intro stale
  have available := (List.mem_filter.mp up).2
  have rotten := (List.mem_filter.mp stale).2
  simp only [Bool.and_eq_true, Bool.not_eq_true'] at rotten
  rw [available] at rotten
  cases rotten.1

theorem asleep_of_resumable {h : SessionHost} (resumable : h ∈ (w.classes (w.poolHosts p)).resumable) :
    h.isShutdown = true ∧ w.backs h = true :=
  (Bool.and_eq_true _ _).mp (List.mem_filter.mp resumable).2

theorem up_not_resumable {h : SessionHost} (up : h ∈ (w.classes (w.poolHosts p)).up) :
    h ∉ (w.classes (w.poolHosts p)).resumable := by
  intro resumable
  have available := (List.mem_filter.mp up).2
  rw [SessionHost.isAvailable_of_isShutdown (asleep_of_resumable resumable).1] at available
  cases available

end Buckets

/-! The pool's records after the converging stages. -/

section After

variable {p d : String} {w w' : World} {T : Int} {made : List String} {gone : List SessionHost}

theorem madeRecord_inPool (p i d : String) : (madeRecord p i d).inPool p = true :=
  SessionHost.inPool_hostText rfl

/-- The records of the pool after the stages: its own records past the stale purge, the woken
ones `Available`, then the records made, all past the disposal. -/
theorem poolHosts_after
    (hosts : w'.hosts = (World.awaken ((w.classes (w.poolHosts p)).woken T) (w.hosts.filter fun x =>
        (w.classes (w.poolHosts p)).stale.all fun h => !x.name.same h.name) ++
      made.map (madeRecord p · d)).filter fun x => gone.all fun h => !x.name.same h.name) :
    w'.poolHosts p = (World.awaken ((w.classes (w.poolHosts p)).woken T) ((w.poolHosts p).filter
        fun x => (w.classes (w.poolHosts p)).stale.all fun h => !x.name.same h.name) ++
      made.map (madeRecord p · d)).filter fun x => gone.all fun h => !x.name.same h.name := by
  have listed : ∀ x : SessionHost, ((fun y => y.inPool p) ∘ fun y =>
      if ((w.classes (w.poolHosts p)).woken T).any (fun h => y.name.same h.name) then
        y.markAvailable else y) x = x.inPool p := by
    intro x
    simp only [Function.comp_apply]
    split <;> rfl
  unfold poolHosts
  rw [hosts, List.filter_comm]
  congr 1
  rw [List.filter_append]
  congr 1
  · unfold World.awaken
    rw [List.filter_map, List.filter_congr fun x _ => listed x, List.filter_comm]
    rfl
  · apply List.filter_eq_self.mpr
    intro x member
    obtain ⟨i, -, rfl⟩ := List.mem_map.mp member
    exact madeRecord_inPool p i d

end After

namespace Tidy

variable {p d : String} {w : World} (tidy : Tidy p d w)
include tidy

theorem eq_of_name {x y : SessionHost} (hx : x ∈ w.poolHosts p) (hy : y ∈ w.poolHosts p)
    (same : x.name = y.name) : x = y :=
  List.inj_on_of_nodup_map tidy.distinct hx hy same

theorem eq_of_same {h x : SessionHost} (member : h ∈ w.poolHosts p) (inW : x ∈ w.hosts)
    (same : x.name.same h.name = true) : x = h := by
  obtain ⟨l, -, named⟩ := tidy.pooled h member
  rw [named] at same
  have xNamed := Value.same_str same
  have inPool : x ∈ w.poolHosts p := mem_poolHosts.mpr ⟨inW, SessionHost.inPool_hostText xNamed⟩
  exact tidy.eq_of_name inPool member (xNamed.trans named.symm)

theorem all_names_iff {gone : List SessionHost} (within : ∀ g ∈ gone, g ∈ w.poolHosts p)
    {x : SessionHost} (inW : x ∈ w.hosts) :
    (gone.all fun g => !x.name.same g.name) = true ↔ x ∉ gone := by
  rw [List.all_eq_true]
  constructor
  · intro passes member
    obtain ⟨y, named⟩ := tidy.names x inW
    have self := passes x member
    rw [named, Value.same_str_self] at self
    cases self
  · intro absent g member
    cases same : x.name.same g.name
    · rfl
    · exact absurd (tidy.eq_of_same (within g member) inW same ▸ member) absent

theorem any_names_iff {gone : List SessionHost} (within : ∀ g ∈ gone, g ∈ w.poolHosts p)
    {x : SessionHost} (inW : x ∈ w.hosts) :
    (gone.any fun g => x.name.same g.name) = true ↔ x ∈ gone := by
  rw [← Bool.not_eq_false, ← Bool.not_eq_true', List.not_any_eq_all_not, tidy.all_names_iff within inW,
    not_not]

/-- The records of the pool after the converging stages are, up to order, its records up, the
woken ones made `Available`, the records made, and the sleeping ones kept. -/
theorem poolHosts_after_perm {w' : World} {s : Settings} {T : Int} {made : List String}
    (fresh : Fresh p d w made)
    (hosts : w'.hosts = (World.awaken ((w.classes (w.poolHosts p)).woken T) (w.hosts.filter fun x =>
        (w.classes (w.poolHosts p)).stale.all fun h => !x.name.same h.name) ++
      made.map (madeRecord p · d)).filter fun x =>
        ((w.classes (w.poolHosts p)).gone s T).all fun h => !x.name.same h.name) :
    (w'.poolHosts p).Perm ((w.classes (w.poolHosts p)).up ++
      ((w.classes (w.poolHosts p)).woken T).map SessionHost.markAvailable ++
      made.map (madeRecord p · d) ++ (w.classes (w.poolHosts p)).kept s T) := by
  set C := w.classes (w.poolHosts p) with C_def
  have upPool : ∀ x ∈ C.up, x ∈ w.poolHosts p := fun x member => World.mem_classes_pool (.inl member)
  have restingPool : ∀ x ∈ C.resumable, x ∈ w.poolHosts p :=
    fun x member => World.mem_classes_pool (.inr (.inl member))
  have stalePool : ∀ x ∈ C.stale, x ∈ w.poolHosts p :=
    fun x member => World.mem_classes_pool (.inr (.inr member))
  have inW : ∀ x ∈ w.poolHosts p, x ∈ w.hosts := fun x member => (mem_poolHosts.mp member).1
  have wokenPool : ∀ x ∈ C.woken T, x ∈ w.poolHosts p :=
    fun x member => restingPool x (List.mem_of_mem_take member)
  have goneLeft : ∀ x ∈ C.gone s T, x ∈ C.left T := by
    intro x member
    unfold Classification.gone at member
    split at member
    · exact member
    · cases member
  have gonePool : ∀ x ∈ C.gone s T, x ∈ w.poolHosts p :=
    fun x member => restingPool x (List.mem_of_mem_drop (goneLeft x member))
  have apart : ∀ x ∈ C.woken T, x ∉ C.left T := by
    have distinct : (C.woken T ++ C.left T).Nodup := by
      rw [Classification.woken_append_left]
      exact (tidy.distinct.sublist (List.filter_sublist.map _)).of_map _
    intro x woken left
    exact (List.nodup_append.mp distinct).2.2 x woken x left rfl
  have split : ((w.poolHosts p).filter fun x => C.stale.all fun h => !x.name.same h.name).Perm
      (C.up ++ C.woken T ++ C.left T) := by
    have base := ((World.classes_perm w (w.poolHosts p)).symm.filter fun x =>
      C.stale.all fun h => !x.name.same h.name)
    rw [List.filter_append, List.filter_append,
      List.filter_eq_self.mpr fun x member => (tidy.all_names_iff stalePool (inW x (upPool x member))).mpr
        (World.up_not_stale member),
      List.filter_eq_self.mpr fun x member => (tidy.all_names_iff stalePool (inW x (restingPool x member))).mpr
        (World.resumable_not_stale member),
      List.filter_eq_nil_iff.mpr fun x member passes =>
        (tidy.all_names_iff stalePool (inW x (stalePool x member))).mp passes member,
      List.append_nil, ← Classification.woken_append_left, ← List.append_assoc] at base
    exact base
  have awakened : World.awaken (C.woken T) (C.up ++ C.woken T ++ C.left T) =
      C.up ++ (C.woken T).map SessionHost.markAvailable ++ C.left T := by
    unfold World.awaken
    rw [List.map_append, List.map_append]
    congr 1
    congr 1
    · refine (List.map_congr_left fun x member => ?_).trans (List.map_id _)
      have asleep : x ∉ C.woken T := fun woken =>
        World.up_not_resumable member (List.mem_of_mem_take woken)
      rw [if_neg (mt (tidy.any_names_iff wokenPool (inW x (upPool x member))).mp asleep), id]
    · apply List.map_congr_left
      intro x member
      rw [if_pos ((tidy.any_names_iff wokenPool (inW x (wokenPool x member))).mpr member)]
    · refine (List.map_congr_left fun x member => ?_).trans (List.map_id _)
      have asleep : x ∉ C.woken T := fun woken => apart x woken member
      have resting := restingPool x (List.mem_of_mem_drop member)
      rw [if_neg (mt (tidy.any_names_iff wokenPool (inW x resting)).mp asleep), id]
  have disposed : (C.up ++ (C.woken T).map SessionHost.markAvailable ++ C.left T ++
      made.map (madeRecord p · d)).filter (fun x => (C.gone s T).all fun h => !x.name.same h.name) =
      C.up ++ (C.woken T).map SessionHost.markAvailable ++ C.kept s T ++ made.map (madeRecord p · d) := by
    rw [List.filter_append, List.filter_append, List.filter_append]
    congr 1
    congr 1
    congr 1
    · apply List.filter_eq_self.mpr
      intro x member
      exact (tidy.all_names_iff gonePool (inW x (upPool x member))).mpr fun gone =>
        World.up_not_resumable member (List.mem_of_mem_drop (goneLeft x gone))
    · apply List.filter_eq_self.mpr
      intro x member
      obtain ⟨y, woken, rfl⟩ := List.mem_map.mp member
      exact (tidy.all_names_iff gonePool (inW y (wokenPool y woken))).mpr fun gone =>
        apart y woken (goneLeft y gone)
    · unfold Classification.kept Classification.gone
      split
      · exact List.filter_eq_nil_iff.mpr fun x member passes =>
          (tidy.all_names_iff (fun y left => restingPool y (List.mem_of_mem_drop left))
            (inW x (restingPool x (List.mem_of_mem_drop member)))).mp passes member
      · exact List.filter_eq_self.mpr fun x _ => rfl
    · apply List.filter_eq_self.mpr
      intro x member
      obtain ⟨i, drawn, rfl⟩ := List.mem_map.mp member
      refine List.all_eq_true.mpr fun g gone => ?_
      cases same : (madeRecord p i d).name.same g.name
      · rfl
      · exact absurd (Value.str_same same) (fresh.unnamed i drawn g (inW g (gonePool g gone)))
  have woke : (World.awaken (C.woken T) ((w.poolHosts p).filter fun x =>
      C.stale.all fun h => !x.name.same h.name)).Perm
      (World.awaken (C.woken T) (C.up ++ C.woken T ++ C.left T)) := split.map _
  rw [awakened] at woke
  have ordered := (woke.append_right (made.map (madeRecord p · d))).filter fun x =>
    (C.gone s T).all fun h => !x.name.same h.name
  rw [disposed] at ordered
  rw [poolHosts_after hosts]
  refine ordered.trans ?_
  rw [List.append_assoc _ (C.kept s T), List.append_assoc _ (made.map _)]
  exact List.perm_append_comm.append_left _


variable (naming : Naming p d)
include naming

theorem eq_of_nodeText {x y : SessionHost} (hx : x ∈ w.poolHosts p) (hy : y ∈ w.poolHosts p)
    (same : x.nodeText = y.nodeText) : x = y := by
  obtain ⟨l, label, named⟩ := tidy.pooled x hx
  obtain ⟨l', label', named'⟩ := tidy.pooled y hy
  rw [SessionHost.nodeText_hostText naming label named,
    SessionHost.nodeText_hostText naming label' named'] at same
  exact tidy.eq_of_name hx hy (by rw [named, named', same])


theorem sleeping_after_stale {w' : World}
    (hosts : w'.hosts = w.hosts.filter fun x =>
      (w.classes (w.poolHosts p)).stale.all fun h => !x.name.same h.name)
    (nodes : w'.nodes = w.nodes.filter fun n =>
      (w.classes (w.poolHosts p)).stale.all fun h => !n.id.same (.str h.nodeText)) :
    Sleeping p d w' (w.classes (w.poolHosts p)).resumable := by
  have pooled : ∀ h ∈ (w.classes (w.poolHosts p)).resumable, h ∈ w.poolHosts p :=
    fun h member => mem_classes_pool (.inr (.inl member))
  have stalePooled : ∀ g ∈ (w.classes (w.poolHosts p)).stale, g ∈ w.poolHosts p :=
    fun g member => mem_classes_pool (.inr (.inr member))
  refine ⟨fun h member => tidy.pooled h (pooled h member), ?_, ?_, ?_, ?_⟩
  · intro h member
    have inW := (mem_poolHosts.mp (pooled h member)).1
    rw [hosts, List.mem_filter]
    exact ⟨inW, (tidy.all_names_iff stalePooled inW).mpr (resumable_not_stale member)⟩
  · intro h member x inW' same
    rw [hosts] at inW'
    exact tidy.eq_of_same (pooled h member) (List.mem_of_mem_filter inW') same
  · intro h member
    -- the node behind a resumable host is in the world, and behind no stale record
    have backs := asleep_of_resumable member
    obtain ⟨l, label, named⟩ := tidy.pooled h (pooled h member)
    have labelled := SessionHost.nodeText_hostText naming label named
    have found : (w.node? (.str l)).isSome = true := by
      have backed := backs.2
      rw [World.backs, SessionHost.parts_hostText naming label named] at backed
      exact backed
    obtain ⟨z, inW, zNamed⟩ := List.mem_map.mp (World.node?_isSome.mp found)
    rw [nodes, labelled]
    refine List.mem_map.mpr ⟨z, List.mem_filter.mpr ⟨inW, ?_⟩, zNamed⟩
    rw [ComputeNode.all_nodeTexts_iff zNamed]
    intro g stale same
    have one := tidy.eq_of_nodeText naming (stalePooled g stale) (pooled h member)
      (same.trans labelled.symm)
    exact resumable_not_stale member (one ▸ stale)
  · exact (tidy.distinct.sublist (List.filter_sublist.map _))


end Tidy

theorem awaken_names (woken records : List SessionHost) :
    (World.awaken woken records).map (·.name) = records.map (·.name) := by
  unfold World.awaken
  rw [List.map_map]
  apply List.map_congr_left
  intro x _
  simp only [Function.comp_apply]
  split <;> rfl

theorem mem_awaken {woken records : List SessionHost} {x : SessionHost}
    (member : x ∈ World.awaken woken records) : ∃ y ∈ records, y.name = x.name := by
  have named : x.name ∈ (World.awaken woken records).map (·.name) := List.mem_map_of_mem member
  rw [awaken_names] at named
  exact List.mem_map.mp named

end World

namespace Fresh

variable {p d : String} {w w' : World} {ids : List String}

theorem mono (fresh : Fresh p d w ids) (nodes : ∀ n ∈ w'.nodes, n.id ∈ w.nodes.map (·.id))
    (hosts : ∀ x ∈ w'.hosts, ∃ y ∈ w.hosts, y.name = x.name) : Fresh p d w' ids where
  labelled := fresh.labelled
  unused i member used := by
    obtain ⟨n, inW', named⟩ := List.mem_map.mp used
    exact fresh.unused i member (named ▸ nodes n inW')
  unnamed i member x inW' named := by
    obtain ⟨y, inW, same⟩ := hosts x inW'
    exact fresh.unnamed i member y inW (same.trans named)
  distinct := fresh.distinct

end Fresh

theorem Plain.lower {x : String} (plain : Plain x) : Unicode.lower x = x := plain.1

theorem ComputeNode.stray_known {pre p : String} {known : List String} {n : ComputeNode} {x : String}
    (named : n.id = .str x) (plain : Plain x) (inKnown : x ∈ known) : n.stray pre p known = false := by
  simp [ComputeNode.stray, named, Plain.lower plain, inKnown]

theorem madeNode_textTagged {kvs : List (String × Value)} (texts : ∀ kv ∈ kvs, ∃ x, kv.2 = .str x)
    (p i : String) : (madeNode p i kvs).TextTagged := by
  refine ⟨_, rfl, fun kv member => ?_⟩
  unfold Table.set at member
  split at member
  · obtain ⟨⟨k, w⟩, inKvs, rfl⟩ := List.mem_map.mp member
    by_cases here : (k == poolTag) = true
    · simp only [here, if_true]
      exact ⟨p, rfl⟩
    · simp only [here, Bool.false_eq_true, if_false]
      exact texts (k, w) inKvs
  · rcases List.mem_append.mp member with inKvs | added
    · exact texts kv inKvs
    · rw [List.mem_singleton.mp added]
      exact ⟨p, rfl⟩

namespace World

/-- A world in which the pool has converged, for settings `s` and the template prefix `pre`: it
is tidy, every record of the pool is `Available` or, when the settings keep a surplus, asleep
over a node that is still there, and no node is a stray of the pool's records. -/
structure Settled (s : Settings) (pre p d : String) (w : World) : Prop where
  tidy : w.Tidy p d
  awake : ∀ h ∈ w.poolHosts p, h.isAvailable = true ∨
    (h.isShutdown = true ∧ w.backs h = true ∧ s.scaling.deleteSurplus.truthy = false)
  claimed : ∀ n ∈ w.nodes, n.stray pre p (nodeIds (w.poolHosts p)) = false

namespace Settled

variable {s : Settings} {pre p d : String} {w : World} (settled : w.Settled s pre p d)
include settled

theorem stale_nil : (w.classes (w.poolHosts p)).stale = [] := by
  rw [World.classes, List.filter_eq_nil_iff]
  intro h member
  rcases settled.awake h member with available | ⟨sleeping, backed, -⟩
  · simp [available]
  · simp [sleeping, backed]

theorem resumable_kept (deleting : s.scaling.deleteSurplus.truthy = true) :
    (w.classes (w.poolHosts p)).resumable = [] := by
  rw [World.classes, List.filter_eq_nil_iff]
  intro h member
  rcases settled.awake h member with available | ⟨-, -, keeping⟩
  · have awake : h.isShutdown = false := by
      cases sleeping : h.isShutdown
      · rfl
      · rw [SessionHost.isAvailable_of_isShutdown sleeping] at available
        cases available
    simp [awake]
  · rw [deleting] at keeping
    cases keeping

end Settled

end World

namespace Reconcile

variable {τ : Type} (svc : Services (StateM τ))

theorem resume_enough (s : Settings) (pool : Value) {T : Int} (queue : List SessionHost)
    (pr : Progress) (enough : T ≤ pr.up.length) (b : Books) (t : τ) :
    exec (resume svc s pool (.int T) queue pr) b t = ⟨.ok (pr, queue), b, t⟩ := by
  cases queue with
  | nil => rfl
  | cons h queue =>
    unfold resume
    rw [exec_bind, exec_short]
    simp [Int.not_lt.mpr enough]

theorem disposeSurplus_idle (s : Settings) (surplus : List SessionHost)
    (idle : surplus = [] ∨ s.scaling.deleteSurplus.truthy = false) (b : Books) (t : τ) :
    ∃ kept, exec (disposeSurplus svc s surplus) b t = ⟨.ok ([], kept), b, t⟩ := by
  unfold disposeSurplus
  rcases idle with rfl | keeping
  · exact ⟨[], rfl⟩
  · by_cases empty : surplus.isEmpty = true
    · exact ⟨[], by rw [if_pos empty]; rfl⟩
    · exact ⟨surplus.map (·.name), by rw [if_neg empty, keeping]; rfl⟩

end Reconcile

namespace World

/-- What the converging stages of a calm pass towards `T` hosts up make of world `w`, when they
draw the node ids `made`: the records and the nodes of `w'`, as the stale purge, the wakes, the
creations, the disposal and the sweep leave them. -/
structure Converged (s : Settings) (pre p d : String) (kvs : List (String × Value)) (T : Int)
    (made : List String) (w w' : World) : Prop where
  fixed : w'.fixed = w.fixed
  hosts : w'.hosts = (World.awaken ((w.classes (w.poolHosts p)).woken T) (w.hosts.filter fun x =>
      (w.classes (w.poolHosts p)).stale.all fun h => !x.name.same h.name) ++
    made.map (madeRecord p · d)).filter fun x =>
      ((w.classes (w.poolHosts p)).gone s T).all fun h => !x.name.same h.name
  unstrayed : ∀ n ∈ w'.nodes, n.stray pre p (nodeIds (w.poolHosts p) ++ made) = false
  origin : ∀ n ∈ w'.nodes, (∃ i ∈ made, n = madeNode p i kvs) ∨
    ∃ z ∈ w.nodes, n.id = z.id ∧ n.tags = z.tags ∧
      ((w.classes (w.poolHosts p)).stale ++ (w.classes (w.poolHosts p)).gone s T).all
        (fun g => !z.id.same (.str g.nodeText)) = true
  survivors : ∀ z ∈ w.nodes,
    ((w.classes (w.poolHosts p)).stale ++ (w.classes (w.poolHosts p)).gone s T).all
      (fun g => !z.id.same (.str g.nodeText)) = true →
    (∃ x ∈ nodeIds (w.poolHosts p) ++ made, z.id = .str x) → ∃ n ∈ w'.nodes, n.id = z.id

end World

namespace Scene

variable (env : Env) (watch : Bool) {p d : String} (naming : Naming p d)
include naming

/-- The converging stages of a pass in a tidy calm world, under settings that build and sweep,
with fresh ids to draw: the stale records go with the nodes behind them, the sleeping hosts
wake from the front while hosts are missing, a new host is made for each host still missing,
the surplus is deleted or kept as the settings say, and the sweep deletes the stray nodes.
Every resume and every creation succeeds. -/
theorem converge_calm (s : Settings) {sc : Scene} (calm : sc.Calm watch) (tidy : sc.world.Tidy p d)
    {kvs : List (String × Value)} (tagged : s.template.tags = .table kvs)
    (texts : ∀ kv ∈ kvs, ∃ x, kv.2 = .str x) {script : String}
    (built : SetupScript.build s.setup sc.world.token env = .ok script) {pre : String}
    (prefixed : s.template.namePrefix = .str pre) (on : s.sweepOrphans.truthy = true)
    (R : List Value) (plan : CapacityPlan) {T : Int} (target : plan.target = .int T)
    (fresh : Fresh p d sc.world
      (drawnIds s sc.drawn ((sc.world.classes (sc.world.poolHosts p)).missing T)))
    (b : Books) :
    let C := sc.world.classes (sc.world.poolHosts p)
    let made := drawnIds s sc.drawn (C.missing T)
    ∃ r sc', exec (converge (services env watch) s (.str p) ⟨R, sc.world.poolHosts p, C, plan⟩) b sc =
        ⟨.ok r, b, sc'⟩ ∧
      r.upCount = C.up.length + (C.woken T).length + made.length ∧ r.target = .int T ∧
      r.resumed = (C.woken T).map (·.name) ∧ r.failedResumes = [] ∧
      r.created = made.map (fun i => .str (hostText p i d)) ∧ r.failedCreations = 0 ∧
      r.keptPoweredOff = (C.kept s T).map (·.name) ∧
      sc'.hooks = sc.hooks ∧ sc'.drawn = sc.drawn + C.missing T ∧
      sc.world.Converged s pre p d kvs T made sc'.world := by
  intro C made
  set known := nodeIds (sc.world.poolHosts p) ++ made with known_def
  obtain ⟨stale, W1, purged, hosts1, nodes1, fixed1⟩ := purgeAll_calm env watch naming
    calm.unfailing C.stale (fun h member => tidy.pooled h (World.mem_classes_pool (.inr (.inr member)))) b
  have calm1 : ({ sc with world := W1 } : Scene).Calm watch :=
    Calm.of_hooks calm rfl (World.fixed_fail fixed1)
  obtain ⟨sc2, resumed, hooks2, drawn2, fixed2, hosts2, ids2, tags2⟩ :=
    resume_calm env watch naming s T calm1 ((World.fixed_domain fixed1).trans tidy.domain)
      C.resumable (tidy.sleeping_after_stale naming hosts1 nodes1) { up := C.up, known := nodeIds (sc.world.poolHosts p) } b
  have calm2 : sc2.Calm watch := Calm.of_hooks calm1 hooks2 (World.fixed_fail fixed2)
  have wokenLength : (C.woken T).length = C.wakeCount T := by
    unfold Classification.woken Classification.wakeCount
    rw [List.length_take]
    omega
  have fresh2 : Fresh p d sc2.world made := by
    refine fresh.mono (fun n member => ?_) (fun x member => ?_)
    · have inW1 : n.id ∈ W1.nodes.map (·.id) := by
        rw [← ids2]
        exact List.mem_map_of_mem member
      obtain ⟨z, inW1, named⟩ := List.mem_map.mp inW1
      rw [nodes1] at inW1
      exact List.mem_map.mpr ⟨z, List.mem_of_mem_filter inW1, named⟩
    · rw [hosts2] at member
      obtain ⟨y, inW1, named⟩ := World.mem_awaken member
      show ∃ y ∈ sc.world.hosts, y.name = x.name
      rw [hosts1] at inW1
      exact ⟨y, List.mem_of_mem_filter inW1, named⟩
  have fixed12 : sc2.world.fixed = sc.world.fixed := fixed2.trans fixed1
  obtain ⟨sc3, created, hooks3, drawn3, fixed3, hosts3, nodes3⟩ :=
    createHosts_calm env watch naming s calm2 ((World.fixed_domain fixed12).trans tidy.domain)
      tagged (show SetupScript.build s.setup sc2.world.token env = .ok script by
        rw [show sc2.world.token = sc.world.token from congrArg (fun f => f.2.2.2.2.1) fixed12]
        exact built) (C.missing T) (by rw [drawn2]; exact fresh2)
      { up := C.up ++ (C.woken T).map SessionHost.markAvailable, known := nodeIds (sc.world.poolHosts p),
        resumed := (C.woken T).map (·.name) } b
  rw [drawn2] at created hosts3 nodes3
  have calm3 : sc3.Calm watch := Calm.of_hooks calm2 hooks3 (World.fixed_fail fixed3)
  obtain ⟨surplusPurged, W4, disposed, hosts4, nodes4, fixed4⟩ := disposeSurplus_calm env watch naming
    s calm3.unfailing (C.left T) (fun h member => tidy.pooled h
      (World.mem_classes_pool (.inr (.inl (List.mem_of_mem_drop member))))) b
  have calm4 : ({ sc3 with world := W4 } : Scene).Calm watch :=
    Calm.of_hooks calm3 rfl (World.fixed_fail fixed4)
  -- every node left came from the world, past both purges, or was made
  have origin4 : ∀ n ∈ W4.nodes, (∃ i ∈ made, n = madeNode p i kvs) ∨
      ∃ z ∈ sc.world.nodes, n.id = z.id ∧ n.tags = z.tags ∧
        (C.stale ++ C.gone s T).all (fun g => !z.id.same (.str g.nodeText)) = true := by
    intro n member
    rw [nodes4, List.mem_filter, nodes3, List.mem_append] at member
    obtain ⟨old | new, kept⟩ := member
    · obtain ⟨z, inW1, sameId, sameTags⟩ := tags2 n old
      rw [nodes1, List.mem_filter] at inW1
      refine .inr ⟨z, inW1.1, sameId, sameTags, ?_⟩
      rw [List.all_append, inW1.2, ← sameId]
      exact kept
    · obtain ⟨i, drawn, rfl⟩ := List.mem_map.mp new
      exact .inl ⟨i, drawn, rfl⟩
  have tidy4 : ∀ n ∈ W4.nodes, (∃ x, n.id = .str x) ∧ n.TextTagged := by
    intro n member
    rcases origin4 n member with ⟨i, -, rfl⟩ | ⟨z, inW, sameId, sameTags, -⟩
    · exact ⟨⟨i, rfl⟩, madeNode_textTagged texts p i⟩
    · obtain ⟨⟨x, -, named⟩, tagsOf⟩ := tidy.nodes z inW
      refine ⟨⟨x, sameId.trans named⟩, ?_⟩
      unfold ComputeNode.TextTagged
      rw [sameTags]
      exact tagsOf
  obtain ⟨sc5, swept, hooks5, drawn5, fixed5, hosts5, nodes5⟩ :=
    @sweep_calm env watch s _ calm4 pre p prefixed tidy4 known b
  have ran : exec (converge (services env watch) s (.str p) ⟨R, sc.world.poolHosts p, C, plan⟩) b sc =
      ⟨.ok
        { pool := .str p, reservations := R.length, target := .int T,
          upCount := C.up.length + (C.woken T).length + made.length, plan := some plan,
          resumed := (C.woken T).map (·.name), created := made.map fun i => .str (hostText p i d),
          stalePurged := stale, surplusPurged := surplusPurged,
          keptPoweredOff := (C.kept s T).map (·.name),
          orphansDeleted := (W4.nodes.filter (ComputeNode.stray pre p known)).map (·.id) }, b, sc5⟩ := by
    unfold converge
    rw [exec_bind, purged]
    dsimp only
    rw [exec_bind, exec_checkpoint_calm env watch calm1]
    dsimp only
    rw [exec_bind, target, resumed]
    dsimp only
    rw [exec_bind, exec_checkpoint_calm env watch calm2]
    dsimp only
    rw [show List.take (min C.resumable.length (T - C.up.length).toNat) C.resumable = C.woken T from rfl,
      show List.drop (min C.resumable.length (T - C.up.length).toNat) C.resumable = C.left T from rfl,
      List.nil_append, exec_bind, List.length_append, List.length_map, wokenLength, attemptsFor_int,
      exec_check]
    dsimp only
    rw [exec_bind, show (T - ((C.up.length + C.wakeCount T : Nat) : Int)).toNat = C.missing T from rfl,
      created]
    dsimp only
    rw [exec_bind, exec_checkpoint_calm env watch calm3]
    dsimp only
    rw [exec_bind, disposed]
    dsimp only
    rw [exec_bind, sweepOrphans_on env watch s calm4 on, swept]
    dsimp only
    rw [exec_pure, List.nil_append, List.length_append, List.length_append, List.length_map,
      List.length_map, wokenLength]
    unfold Classification.kept
    split <;> rfl
  have inW4 : ∀ n ∈ sc5.world.nodes, n ∈ W4.nodes := by
    intro n member
    rw [nodes5] at member
    exact List.mem_of_mem_filter member
  -- a node whose id the pass knows is never a stray
  have known_stray : ∀ n ∈ W4.nodes, ∀ x, n.id = .str x → x ∈ known → n.stray pre p known = false := by
    intro n member x named inKnown
    obtain ⟨i, drawn, rfl⟩ | ⟨z, inW, sameId, -, -⟩ := origin4 n member
    · cases named
      exact ComputeNode.stray_known rfl (fresh.labelled _ drawn).1 inKnown
    · obtain ⟨⟨y, plain, zNamed⟩, -⟩ := tidy.nodes z inW
      rw [sameId, zNamed] at named
      cases named
      exact ComputeNode.stray_known (sameId.trans zNamed) plain inKnown
  refine ⟨_, sc5, ran, rfl, rfl, rfl, rfl, rfl, rfl, rfl, hooks5.trans (hooks3.trans hooks2),
    by rw [drawn5, drawn3, drawn2], fixed5.trans (fixed4.trans (fixed3.trans fixed12)), ?_, ?_,
    fun n member => origin4 n (inW4 n member), ?_⟩
  · rw [hosts5]
    show W4.hosts = _
    rw [hosts4, hosts3, hosts2, hosts1]
    rfl
  · intro n member
    rw [nodes5, List.mem_filter] at member
    obtain ⟨inW4, passes⟩ := member
    cases strayed : n.stray pre p known
    · rfl
    · obtain ⟨x, named⟩ := (tidy4 n inW4).1
      have listed : n.id ∈ (W4.nodes.filter (ComputeNode.stray pre p known)).map (·.id) :=
        List.mem_map_of_mem (List.mem_filter.mpr ⟨inW4, strayed⟩)
      have self := List.all_eq_true.mp passes n.id listed
      rw [named, Value.same_str_self] at self
      cases self
  · intro z inW passes ⟨x, inKnown, named⟩
    rw [List.all_append, Bool.and_eq_true] at passes
    have inW1 : z ∈ W1.nodes := by
      rw [nodes1]
      exact List.mem_filter.mpr ⟨inW, passes.1⟩
    have inSc2 : z.id ∈ sc2.world.nodes.map (·.id) := by
      rw [ids2]
      exact List.mem_map_of_mem inW1
    obtain ⟨y, inSc2, sameId⟩ := List.mem_map.mp inSc2
    have yInW4 : y ∈ W4.nodes := by
      rw [nodes4, List.mem_filter, nodes3, sameId]
      exact ⟨List.mem_append_left _ inSc2, passes.2⟩
    refine ⟨y, ?_, sameId⟩
    rw [nodes5, List.mem_filter]
    refine ⟨yInW4, List.all_eq_true.mpr fun id listed => ?_⟩
    obtain ⟨y', inStrays, rfl⟩ := List.mem_map.mp listed
    obtain ⟨inW4', strayed⟩ := List.mem_filter.mp inStrays
    cases same : y.id.same y'.id
    · rfl
    · rw [sameId, named] at same
      have y'Named := Value.str_same same
      rw [known_stray y' inW4' x y'Named inKnown] at strayed
      cases strayed

omit naming in
/-- The converging stages of a pass in a calm world where the pool has converged, towards a
target no higher than the hosts up: nothing is purged, woken, made or swept, and the nodes and
the records stay as they are. -/
theorem converge_settled (s : Settings) {sc : Scene} (calm : sc.Calm watch) {pre : String}
    (settled : sc.world.Settled s pre p d) (prefixed : s.template.namePrefix = .str pre)
    (on : s.sweepOrphans.truthy = true) (R : List Value) (plan : CapacityPlan) {T : Int}
    (target : plan.target = .int T)
    (enough : T ≤ ((sc.world.classes (sc.world.poolHosts p)).up.length : Int)) (b : Books) :
    ∃ r sc', exec (converge (services env watch) s (.str p)
        ⟨R, sc.world.poolHosts p, sc.world.classes (sc.world.poolHosts p), plan⟩) b sc =
        ⟨.ok r, b, sc'⟩ ∧
      r.resumed = [] ∧ r.failedResumes = [] ∧ r.created = [] ∧ r.failedCreations = 0 ∧
      r.stalePurged = [] ∧ r.surplusPurged = [] ∧ r.orphansDeleted = [] ∧
      sc'.hooks = sc.hooks ∧ sc'.drawn = sc.drawn ∧ sc'.world.fixed = sc.world.fixed ∧
      sc'.world.hosts = sc.world.hosts ∧ sc'.world.nodes = sc.world.nodes := by
  set C := sc.world.classes (sc.world.poolHosts p) with C_def
  have none : (T - (C.up.length : Int)).toNat = 0 := by omega
  obtain ⟨kept, disposed⟩ := disposeSurplus_idle (services env watch) s C.resumable (by
    cases deleting : s.scaling.deleteSurplus.truthy
    · exact .inr rfl
    · exact .inl (settled.resumable_kept deleting)) b sc
  have tidyNodes : ∀ n ∈ sc.world.nodes, (∃ x, n.id = .str x) ∧ n.TextTagged := by
    intro n member
    obtain ⟨⟨x, -, named⟩, tagged⟩ := settled.tidy.nodes n member
    exact ⟨⟨x, named⟩, tagged⟩
  obtain ⟨sc', swept, hooks', drawn', fixed', hosts', nodes'⟩ :=
    @sweep_calm env watch s _ calm pre p prefixed tidyNodes (nodeIds (sc.world.poolHosts p)) b
  have strays : sc.world.nodes.filter (ComputeNode.stray pre p (nodeIds (sc.world.poolHosts p))) = [] :=
    List.filter_eq_nil_iff.mpr fun n member => by rw [settled.claimed n member]; decide
  rw [strays] at swept nodes'
  refine ⟨
    { pool := .str p, reservations := R.length, target := .int T, upCount := C.up.length,
      plan := some plan, keptPoweredOff := kept },
    sc', ?_, rfl, rfl, rfl, rfl, rfl, rfl, rfl, hooks', drawn', fixed', hosts', ?_⟩
  · unfold converge
    dsimp only
    have purgedNone : exec (purgeAll (services env watch) []) b sc = ⟨.ok [], b, sc⟩ := rfl
    rw [settled.stale_nil, exec_bind, purgedNone]
    dsimp only
    rw [exec_bind, exec_checkpoint_calm env watch calm]
    dsimp only
    rw [exec_bind, target, resume_enough _ _ _ _ _ enough]
    dsimp only
    rw [exec_bind, exec_checkpoint_calm env watch calm]
    dsimp only
    rw [exec_bind, attemptsFor_int, exec_check]
    dsimp only
    have madeNone : exec (createHosts (services env watch) s (.str p) 0
        { up := C.up, known := nodeIds (sc.world.poolHosts p) }) b sc =
        ⟨.ok { up := C.up, known := nodeIds (sc.world.poolHosts p) }, b, sc⟩ := rfl
    rw [none, exec_bind, madeNone]
    dsimp only
    rw [exec_bind, exec_checkpoint_calm env watch calm]
    dsimp only
    rw [exec_bind, disposed]
    dsimp only
    rw [exec_bind, sweepOrphans_on env watch s calm on, swept]
    rfl
  · rw [nodes']
    simp

end Scene

end DesktopPool
