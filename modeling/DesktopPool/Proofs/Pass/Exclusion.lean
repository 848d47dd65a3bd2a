import DesktopPool.Proofs.Pass.Deletions

/-! Passes of several pools that run at once. They share the held locks, which are kept by key:
a pass for a pool whose lock is held under an equal key stops at the lock, having made no call
but its first cancellation check, so its stages never run beside those of the pass that holds
the lock. A node belongs to a pool by its pool tag, compared without case, so the orphan sweep
of a pass deletes only nodes tagged for its own pool up to case, and never a node made for a
pool whose name differs beyond case. Two names equal only up to case fall between the two:
their locks are different keys, while each pool owns the other's nodes. -/
namespace DesktopPool

theorem Table.lookup_set (kvs : List (String × Value)) (key : String) (v : Value) :
    (Table.set kvs key v).lookup key = some v := by
  unfold Table.set
  split
  · next present =>
    -- the key is present: every entry under it now holds `v`, the first among them is found
    induction kvs with
    | nil => simp at present
    | cons kv rest later =>
      obtain ⟨k, w⟩ := kv
      by_cases here : k = key
      · simp [here]
      · have inRest : rest.any (·.1 == key) = true := by simpa [here] using present
        have differ : (key == k) = false := by simpa using Ne.symm here
        have kept : (k == key) = false := by simpa using here
        have skipped := later inRest
        simp only [List.map_cons, List.lookup_cons, kept, Bool.false_eq_true, if_false, differ]
        exact skipped
  · next absent =>
    have missing : kvs.lookup key = none := by
      rw [List.lookup_eq_none_iff]
      rintro ⟨k, w⟩ member
      simp only [bne_iff_ne, ne_eq]
      rintro rfl
      exact absent (by simpa using ⟨w, member⟩)
    simp [List.lookup_append, missing]

namespace Lifecycle

theorem nodeSpec_poolTag {s : Settings} {nodeId pool : Value} {spec : NodeSpec}
    (built : nodeSpec s nodeId pool = .ok spec) : spec.tags.entry poolTag = .ok pool := by
  unfold nodeSpec at built
  split at built
  · cases built
    simp [Value.entry, Value.entryD, Table.lookup_set]
  · cases built

end Lifecycle

namespace Reconcile

/-- A pool owns a node only when the node's pool tag, lower-cased, is the pool's name
lower-cased. -/
theorem ownedBy_lower {pool owner : Value} {n : ComputeNode}
    (tagged : n.tags.entry poolTag = .ok owner) (owned : ownedBy pool n = .ok true) :
    owner.lower = pool.lower := by
  unfold ownedBy at owned
  rw [tagged] at owned
  simp only [Outcome.ok_bind] at owned
  split at owned
  · cases owned
  · obtain ⟨lo, lowered, rest⟩ := Outcome.bind_eq_ok.mp owned
    obtain ⟨lp, lowered', same⟩ := Outcome.bind_eq_ok.mp rest
    have alike : lo = lp := by simpa using same
    rw [lowered, lowered', alike]

open Pass

variable {σ : Type} (svc : Services (StateM σ))

/-- A pass for a pool whose lock is held under an equal key stops at the lock: it ends with a
fault, having made no call but its first cancellation check, and leaves the books as they
were. -/
theorem ensureCapacity_held (s : Settings) (pool : Value) (b : Books) (t : σ)
    (held : b.isLocked pool = true) :
    ∃ e answer, exec (ensureCapacity svc.traced s pool) b (t, []) =
      ⟨.error e, b, ((svc.cancelled.run t).2, [.cancelCheck answer])⟩ := by
  unfold ensureCapacity
  rw [exec_bind, exec_checkpoint_traced]
  by_cases cancelled : (svc.cancelled.run t).1 = true
  · exact ⟨.make .cancelled s!"Reconciliation of pool {pool.text} was cancelled", true,
      by simp [cancelled]⟩
  simp only [cancelled, Bool.false_eq_true, if_false, List.nil_append]
  rcases exec_locked s pool (stages svc.traced s pool) b
      ((svc.cancelled.run t).2, [.cancelCheck false]) with ⟨e, refused⟩ | ⟨free, -⟩
  · exact ⟨e, false, refused⟩
  · rw [held] at free
    cases free

/-- The orphan sweep of a pass for `pool` deletes a node id only when its listing returned a
node of that id tagged for `pool` up to case. -/
theorem sweepOrphans_deletes_owned (s : Settings) (pool : Value) (known : List String)
    (b : Books) (t : σ × List Call) :
    ∃ new, (exec (sweepOrphans svc.traced s pool known) b t).state.2 = t.2 ++ new ∧
      ∀ x, .deleteNode x ∈ new → ∃ nodes, .listNodes s.template.namePrefix (.ok nodes) ∈ new ∧
        ∃ n ∈ nodes, n.id = x ∧ ownedBy pool n = .ok true := by
  obtain ⟨new, grown, calls⟩ := sweepOrphans_orphans svc s pool known b t
  refine ⟨new, grown, fun x deleted => ?_⟩
  rcases calls _ deleted with quiet | ⟨-, id, same, nodes, listed, n, member, named, owned, -⟩
  · cases quiet
  · cases same
    exact ⟨nodes, listed, n, member, named, owned⟩

/-- Passes for pools with equal names never run their stages side by side: while a pass for `q`
holds its lock, a pass for a pool `p` equal to `q` stops at the lock, with no call but its first
cancellation check and its books untouched. Pools whose names differ beyond case never sweep
each other's nodes: every node the orphan sweep of a pass for `p` deletes is one its listing
returned that was made for `q` under no settings and with no id. -/
theorem equal_pools_exclude_and_foreign_nodes_survive (s : Settings) (p q : Value) :
    (∀ (b : Books) (t : σ), q ∈ b.locked → q.same p = true →
      ∃ e answer, exec (ensureCapacity svc.traced s p) b (t, []) =
        ⟨.error e, b, ((svc.cancelled.run t).2, [.cancelCheck answer])⟩) ∧
    (q.lower ≠ p.lower → ∀ (known : List String) (b : Books) (t : σ × List Call),
      ∃ new, (exec (sweepOrphans svc.traced s p known) b t).state.2 = t.2 ++ new ∧
        ∀ x, .deleteNode x ∈ new → ∃ nodes, .listNodes s.template.namePrefix (.ok nodes) ∈ new ∧
          ∃ n ∈ nodes, n.id = x ∧ ∀ (s' : Settings) (id : Value) (spec : NodeSpec),
            Lifecycle.nodeSpec s' id q = .ok spec → n.tags ≠ spec.tags) := by
  refine ⟨fun b t holding same => ?_, fun foreign known b t => ?_⟩
  · exact ensureCapacity_held svc s p b t (List.any_eq_true.mpr ⟨q, holding, same⟩)
  · obtain ⟨new, grown, deletes⟩ := sweepOrphans_deletes_owned svc s p known b t
    refine ⟨new, grown, fun x deleted => ?_⟩
    obtain ⟨nodes, listed, n, member, named, owned⟩ := deletes x deleted
    refine ⟨nodes, listed, n, member, named, fun s' id spec built made => ?_⟩
    -- a node made for `q` carries `q` as its pool tag, which lowers unlike `p`
    have tagged : n.tags.entry poolTag = .ok q := by
      rw [made]
      exact Lifecycle.nodeSpec_poolTag built
    exact foreign (ownedBy_lower tagged owned)

/-- While a pass for `HP` holds its lock, a second pass for `HP` stops at it; the orphan sweep of
a pass for `HP` deletes no node made for `HQ`. -/
theorem held_lock_stops_second_pass :
    let svc := (Scene.services default false).traced
    let held : Books := { locked := [.str "HP"] }
    (∃ e answer, exec (ensureCapacity svc {} (.str "HP")) held ({}, []) =
        ⟨.error e, held, (((Scene.services default false).cancelled.run {}).2, [.cancelCheck answer])⟩) ∧
      (Value.str "HQ").lower ≠ (Value.str "HP").lower ∧
      ∃ new, (exec (sweepOrphans svc {} (.str "HP") []) {} ({}, [])).state.2 = [] ++ new ∧
        ∀ x, .deleteNode x ∈ new → ∃ nodes, .listNodes ({} : Settings).template.namePrefix (.ok nodes) ∈ new ∧
          ∃ n ∈ nodes, n.id = x ∧ ∀ (s' : Settings) (id : Value) (spec : NodeSpec),
            Lifecycle.nodeSpec s' id (.str "HQ") = .ok spec → n.tags ≠ spec.tags := by
  have foreign : (Value.str "HQ").lower ≠ (Value.str "HP").lower := by
    have differ : Unicode.lower "HQ" ≠ Unicode.lower "HP" := by decide +kernel
    intro same
    exact differ (Except.ok.inj same)
  exact ⟨(equal_pools_exclude_and_foreign_nodes_survive (Scene.services default false) {}
      (.str "HP") (.str "HP")).1 _ _ (List.mem_singleton_self _) (by decide), foreign,
    (equal_pools_exclude_and_foreign_nodes_survive (Scene.services default false) {}
      (.str "HP") (.str "HQ")).2 foreign [] {} ({}, [])⟩

end Reconcile

end DesktopPool
