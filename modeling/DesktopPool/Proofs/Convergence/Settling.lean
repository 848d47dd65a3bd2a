import DesktopPool.Proofs.Convergence.Converge

/-! What the converging stages leave. From a tidy world with fresh ids, the pool's records after
the stages are, up to order, those up before, those woken (now `Available`), those made and the
sleeping ones kept. Every node left under the template's prefix and tagged for the pool backs
one of them: the sweep deleted the rest, and a node the pass knew backs a record that is still
there unless its record was purged, and then the node went with it. So the world is settled:
tidy, every record `Available` or kept asleep over its node, and no stray left. -/
namespace DesktopPool

open Pass Reconcile

namespace SessionHost

@[simp] theorem markAvailable_name (h : SessionHost) : h.markAvailable.name = h.name := rfl

theorem isAvailable_markAvailable (h : SessionHost) : h.markAvailable.isAvailable = true := by
  simp [markAvailable, isAvailable, Value.isText]

theorem isAvailable_madeRecord (p i d : String) : (madeRecord p i d).isAvailable = true := by
  simp [madeRecord, isAvailable, Value.isText]

end SessionHost

theorem mem_nodeIds {p d l : String} (naming : Naming p d) (label : Label l) {hosts : List SessionHost}
    {h : SessionHost} (member : h ∈ hosts) (named : h.name = .str (hostText p l d)) :
    l ∈ nodeIds hosts := by
  unfold nodeIds
  refine List.mem_filterMap.mpr ⟨h, member, ?_⟩
  rw [SessionHost.parts_hostText naming label named]
  exact congrArg some label.1.1

theorem Classification.mem_left_of_gone {C : Classification} {s : Settings} {T : Int}
    {g : SessionHost} (gone : g ∈ C.gone s T) : g ∈ C.left T := by
  unfold Classification.gone at gone
  split at gone
  · exact gone
  · cases gone

theorem Classification.mem_left_of_kept {C : Classification} {s : Settings} {T : Int}
    {h : SessionHost} (kept : h ∈ C.kept s T) : h ∈ C.left T ∧ s.scaling.deleteSurplus.truthy = false := by
  unfold Classification.kept at kept
  split at kept
  · cases kept
  · next keeping => exact ⟨kept, Bool.eq_false_iff.mpr keeping⟩

theorem Classification.mem_resumable_of_kept {C : Classification} {s : Settings} {T : Int}
    {h : SessionHost} (kept : h ∈ C.kept s T) : h ∈ C.resumable :=
  List.mem_of_mem_drop (Classification.mem_left_of_kept kept).1

theorem Classification.woken_length (C : Classification) (T : Int) :
    (C.woken T).length = C.wakeCount T := by
  unfold Classification.woken Classification.wakeCount
  rw [List.length_take]
  omega

/-- The hosts up after a calm pass reach the target: those up, those woken and those made. -/
theorem Classification.target_le_up (C : Classification) (T : Int) :
    T ≤ ((C.up.length + (C.woken T).length + C.missing T : Nat) : Int) := by
  rw [C.woken_length]
  unfold Classification.missing
  omega

namespace World

namespace Converged

variable {s : Settings} {pre p d : String} {kvs : List (String × Value)} {T : Int}
  {made : List String} {w w' : World} (conv : w.Converged s pre p d kvs T made w')
  (tidy : w.Tidy p d) (fresh : Fresh p d w made)
include conv tidy fresh

theorem poolHosts_perm : (w'.poolHosts p).Perm ((w.classes (w.poolHosts p)).up ++
    ((w.classes (w.poolHosts p)).woken T).map SessionHost.markAvailable ++
    made.map (madeRecord p · d) ++ (w.classes (w.poolHosts p)).kept s T) :=
  tidy.poolHosts_after_perm fresh conv.hosts

theorem mem_poolHosts {h : SessionHost} :
    h ∈ w'.poolHosts p ↔ h ∈ (w.classes (w.poolHosts p)).up ∨
      (∃ y ∈ (w.classes (w.poolHosts p)).woken T, y.markAvailable = h) ∨
      (∃ i ∈ made, madeRecord p i d = h) ∨ h ∈ (w.classes (w.poolHosts p)).kept s T := by
  rw [(conv.poolHosts_perm tidy fresh).mem_iff]
  simp only [List.mem_append, List.mem_map, or_assoc]


/-- The record of a node a pass deleted: the node behind a stale or deleted record is gone, and
no node was made under its id. -/
theorem no_node_of_gone (naming : Naming p d) {g : SessionHost}
    (member : g ∈ (w.classes (w.poolHosts p)).stale ++ (w.classes (w.poolHosts p)).gone s T) :
    ∀ n ∈ w'.nodes, n.id ≠ .str g.nodeText := by
  intro n inW' named
  have pooled : g ∈ w.poolHosts p := by
    rcases List.mem_append.mp member with stale | gone
    · exact mem_classes_pool (.inr (.inr stale))
    · exact mem_classes_pool (.inr (.inl (List.mem_of_mem_drop
        (Classification.mem_left_of_gone gone))))
  obtain ⟨l, label, gNamed⟩ := tidy.pooled g pooled
  rw [SessionHost.nodeText_hostText naming label gNamed] at named
  rcases conv.origin n inW' with ⟨i, drawn, rfl⟩ | ⟨z, -, sameId, -, passes⟩
  · -- a node made under the id would share its name with the record
    cases named
    exact fresh.unnamed l drawn g (World.mem_poolHosts.mp pooled).1 gNamed
  · have kept := List.all_eq_true.mp passes g member
    rw [← sameId, named, SessionHost.nodeText_hostText naming label gNamed, Value.same_str_self] at kept
    cases kept

/-- Every node the sweep left under the template's prefix and tagged for the pool backs a record
of the pool after the stages. -/
theorem backs_owned (naming : Naming p d) {n : ComputeNode} (member : n ∈ w'.nodes) {x : String}
    (named : n.id = .str x) (prefixed : x.startsWith pre = true) (owned : n.ownedText p = true) :
    Label x ∧ ∃ h ∈ w'.poolHosts p, h.name = .str (hostText p x d) := by
  have plain : Plain x := by
    rcases conv.origin n member with ⟨i, drawn, rfl⟩ | ⟨z, inW, sameId, -, -⟩
    · cases named
      exact (fresh.labelled x drawn).1
    · obtain ⟨⟨y, plainY, zNamed⟩, -⟩ := tidy.nodes z inW
      rw [sameId, zNamed] at named
      cases named
      exact plainY
  have known : x ∈ nodeIds (w.poolHosts p) ++ made := by
    have unstrayed := conv.unstrayed n member
    simp only [ComputeNode.stray, named, prefixed, owned, Plain.lower plain, Bool.true_and,
      Bool.not_eq_false', List.contains_iff_mem] at unstrayed
    exact unstrayed
  rcases List.mem_append.mp known with listed | drawn
  · -- the node behind a record of the pool, which is up, woken or kept
    obtain ⟨h, pooled, parsed⟩ := List.mem_filterMap.mp listed
    obtain ⟨l, label, hNamed⟩ := tidy.pooled h pooled
    rw [SessionHost.parts_hostText naming label hNamed] at parsed
    have same : l = x := by
      have lowered := Option.some.inj parsed
      rwa [label.1.1] at lowered
    subst same
    refine ⟨label, ?_⟩
    have gone : h ∈ (w.classes (w.poolHosts p)).stale ++ (w.classes (w.poolHosts p)).gone s T →
        False := fun goneH => conv.no_node_of_gone tidy fresh naming goneH n member
          (by rw [named, SessionHost.nodeText_hostText naming label hNamed])
    rcases List.mem_append.mp ((World.classes_perm w (w.poolHosts p)).mem_iff.mpr pooled)
      with upOrResting | stale
    · rcases List.mem_append.mp upOrResting with up | resting
      · exact ⟨h, (conv.mem_poolHosts tidy fresh).mpr (.inl up), hNamed⟩
      · rw [← Classification.woken_append_left] at resting
        rcases List.mem_append.mp resting with woken | left
        · exact ⟨h.markAvailable, (conv.mem_poolHosts tidy fresh).mpr (.inr (.inl ⟨h, woken, rfl⟩)),
            hNamed⟩
        · by_cases deleting : s.scaling.deleteSurplus.truthy = true
          · refine (gone (List.mem_append_right _ ?_)).elim
            unfold Classification.gone
            rw [if_pos deleting]
            exact left
          · refine ⟨h, (conv.mem_poolHosts tidy fresh).mpr (.inr (.inr (.inr ?_))), hNamed⟩
            unfold Classification.kept
            rw [if_neg deleting]
            exact left
    · exact (gone (List.mem_append_left _ stale)).elim
  · exact ⟨fresh.labelled x drawn, madeRecord p x d,
      (conv.mem_poolHosts tidy fresh).mpr (.inr (.inr (.inl ⟨x, drawn, rfl⟩))), rfl⟩

/-- The stages leave the world tidy: the nodes left or made carry plain text ids and text tags,
and the pool's records, named after plain nodes, each once. -/
theorem tidy' (naming : Naming p d) (texts : ∀ kv ∈ kvs, ∃ x, kv.2 = .str x) : w'.Tidy p d where
  domain := (World.fixed_domain conv.fixed).trans tidy.domain
  nodes n member := by
    rcases conv.origin n member with ⟨i, drawn, rfl⟩ | ⟨z, inW, sameId, sameTags, -⟩
    · exact ⟨⟨i, (fresh.labelled i drawn).1, rfl⟩, madeNode_textTagged texts p i⟩
    · obtain ⟨⟨x, plain, named⟩, tagged⟩ := tidy.nodes z inW
      refine ⟨⟨x, plain, sameId.trans named⟩, ?_⟩
      unfold ComputeNode.TextTagged
      rw [sameTags]
      exact tagged
  names h member := by
    rw [conv.hosts, List.mem_filter, List.mem_append] at member
    rcases member.1 with woken | made
    · obtain ⟨y, inW, named⟩ := World.mem_awaken woken
      obtain ⟨x, yNamed⟩ := tidy.names y (List.mem_of_mem_filter inW)
      exact ⟨x, named.symm.trans yNamed⟩
    · obtain ⟨i, -, rfl⟩ := List.mem_map.mp made
      exact ⟨_, rfl⟩
  pooled h member := by
    rcases (conv.mem_poolHosts tidy fresh).mp member with up | ⟨y, woken, rfl⟩ | ⟨i, drawn, rfl⟩ | kept
    · exact tidy.pooled h (mem_classes_pool (.inl up))
    · obtain ⟨l, label, named⟩ := tidy.pooled y
        (mem_classes_pool (.inr (.inl (List.mem_of_mem_take woken))))
      exact ⟨l, label, named⟩
    · exact ⟨i, fresh.labelled i drawn, rfl⟩
    · exact tidy.pooled h (mem_classes_pool (.inr (.inl (List.mem_of_mem_drop
        (Classification.mem_left_of_kept kept).1))))
  distinct := by
    rw [poolHosts_after conv.hosts]
    refine (List.filter_sublist.map _).nodup ?_
    rw [List.map_append, World.awaken_names, List.nodup_append]
    refine ⟨tidy.distinct.sublist (List.filter_sublist.map _), ?_, ?_⟩
    · rw [List.map_map]
      refine List.Nodup.map_on (fun i drawn j drawn' same => ?_) fresh.distinct
      exact naming.hostText_inj (fresh.labelled i drawn) (fresh.labelled j drawn')
        (Value.str.inj same)
    · intro a old b new same
      obtain ⟨x, kept, rfl⟩ := List.mem_map.mp old
      obtain ⟨i, drawn, rfl⟩ := List.mem_map.mp (List.map_map ▸ new)
      exact fresh.unnamed i drawn x (World.mem_poolHosts.mp (List.mem_of_mem_filter kept)).1 same

/-- Every record of the pool after the stages is `Available`, but for the sleeping ones kept,
whose nodes are still there. -/
theorem awake (naming : Naming p d) : ∀ h ∈ w'.poolHosts p, h.isAvailable = true ∨
    (h.isShutdown = true ∧ w'.backs h = true ∧ s.scaling.deleteSurplus.truthy = false) := by
  intro h member
  rcases (conv.mem_poolHosts tidy fresh).mp member with up | ⟨y, -, rfl⟩ | ⟨i, -, rfl⟩ | kept
  · exact .inl (List.mem_filter.mp up).2
  · exact .inl (SessionHost.isAvailable_markAvailable y)
  · exact .inl (SessionHost.isAvailable_madeRecord p i d)
  · obtain ⟨left, keeping⟩ := Classification.mem_left_of_kept kept
    have resting := List.mem_of_mem_drop left
    have pooled := mem_classes_pool (.inr (.inl resting))
    obtain ⟨sleeping, backed⟩ := asleep_of_resumable resting
    refine .inr ⟨sleeping, ?_, keeping⟩
    -- the node behind a kept host passes every purge and is known to the sweep
    obtain ⟨l, label, named⟩ := tidy.pooled h pooled
    have found : (w.node? (.str l)).isSome = true := by
      rw [World.backs, SessionHost.parts_hostText naming label named] at backed
      exact backed
    obtain ⟨z, inW, zNamed⟩ := List.mem_map.mp (World.node?_isSome.mp found)
    have passes : ((w.classes (w.poolHosts p)).stale ++ (w.classes (w.poolHosts p)).gone s T).all
        (fun g => !z.id.same (.str g.nodeText)) = true := by
      have none : (w.classes (w.poolHosts p)).gone s T = [] := by
        unfold Classification.gone
        rw [keeping]
        rfl
      rw [none, List.append_nil, ComputeNode.all_nodeTexts_iff zNamed]
      intro g stale same
      have one := tidy.eq_of_nodeText naming (mem_classes_pool (.inr (.inr stale))) pooled
        (same.trans (SessionHost.nodeText_hostText naming label named).symm)
      exact resumable_not_stale resting (one ▸ stale)
    obtain ⟨n, inW', sameId⟩ := conv.survivors z inW passes
      ⟨l, List.mem_append_left _ (mem_nodeIds naming label pooled named), zNamed⟩
    rw [World.backs, SessionHost.parts_hostText naming label named, World.node?_isSome]
    exact List.mem_map.mpr ⟨n, inW', sameId.trans zNamed⟩

/-- No node after the stages is a stray of the pool's records after them. -/
theorem claimed (naming : Naming p d) :
    ∀ n ∈ w'.nodes, n.stray pre p (nodeIds (w'.poolHosts p)) = false := by
  intro n member
  unfold ComputeNode.stray
  split
  · next x named =>
    cases prefixed : x.startsWith pre
    · rfl
    · cases owned : n.ownedText p
      · rfl
      · obtain ⟨label, h, pooled, hNamed⟩ := conv.backs_owned tidy fresh naming member named prefixed owned
        simp [Plain.lower label.1, mem_nodeIds naming label pooled hNamed]
  · rfl

/-- The stages leave the pool settled. -/
theorem settled (naming : Naming p d) (texts : ∀ kv ∈ kvs, ∃ x, kv.2 = .str x) :
    w'.Settled s pre p d :=
  ⟨conv.tidy' tidy fresh naming texts, conv.awake tidy fresh naming, conv.claimed tidy fresh naming⟩

theorem available_length :
    ((w'.poolHosts p).filter (·.isAvailable)).length =
      (w.classes (w.poolHosts p)).up.length + ((w.classes (w.poolHosts p)).woken T).length +
        made.length := by
  set C := w.classes (w.poolHosts p)
  have up : C.up.filter (·.isAvailable) = C.up :=
    List.filter_eq_self.mpr fun h up => (List.mem_filter.mp up).2
  have woken : ((C.woken T).map SessionHost.markAvailable).filter (·.isAvailable) =
      (C.woken T).map SessionHost.markAvailable := by
    refine List.filter_eq_self.mpr fun h woken => ?_
    obtain ⟨y, -, rfl⟩ := List.mem_map.mp woken
    exact SessionHost.isAvailable_markAvailable y
  have madeUp : (made.map (madeRecord p · d)).filter (·.isAvailable) = made.map (madeRecord p · d) := by
    refine List.filter_eq_self.mpr fun h made => ?_
    obtain ⟨i, -, rfl⟩ := List.mem_map.mp made
    exact SessionHost.isAvailable_madeRecord p i d
  have kept : (C.kept s T).filter (·.isAvailable) = [] := by
    refine List.filter_eq_nil_iff.mpr fun h kept available => ?_
    have sleeping := (asleep_of_resumable (Classification.mem_resumable_of_kept kept)).1
    rw [SessionHost.isAvailable_of_isShutdown sleeping] at available
    cases available
  rw [((conv.poolHosts_perm tidy fresh).filter _).length_eq, List.filter_append, List.filter_append,
    List.filter_append, up, woken, madeUp, kept]
  simp only [List.append_nil, List.length_append, List.length_map]

end Converged

end World

end DesktopPool
