import DesktopPool.Proofs.Pass.Phases
import DesktopPool.Proofs.Value.Faults

/-! The faults each stage of a pass can end with. Checkpoints raise cancellations. The rebuild
raises its own fault when a listing fails, before it judges any slot, and a fault of the data
when the pool is no key. The assessment raises the listing fault, cancellations and faults of
the data. A creation raises only creation faults, which the pass counts, so the converging
stages end only with cancellations and faults of the data: the faults of the services never
leave a stage unwrapped. -/
namespace DesktopPool.Reconcile

open Pass Outcome

variable {τ : Type} {svc : Services (StateM τ)}

/-- A fault a pass can end with once past its survey: a cancellation or a fault of the data. -/
def LateFault (e : Fault) : Prop := e.kind = .cancelled ∨ e.kind.ofPass = false

theorem not_lateFault {e : Fault} (ofPass : e.kind.ofPass = true) (live : e.kind ≠ .cancelled) :
    ¬LateFault e := by
  rintro (cancelled | plain)
  · exact live cancelled
  · rw [ofPass] at plain
    cases plain

theorem checkpoint_raises (pool : Value) :
    Raises (fun e => e.kind = .cancelled) (checkpoint svc pool) := by
  unfold checkpoint
  exact Raises.bind (Raises.lift _) fun _ => Raises.ite (Raises.raise rfl) (Raises.pure _)

theorem check_raises {α : Type} {o : Outcome α} (data : OfData o) :
    Raises (fun e => e.kind.ofPass = false) (Pass.check o : Pass (StateM τ) α) :=
  Raises.check data

/-- Every fault of the creation steps for a node names that node and the step it failed at. -/
theorem build_raises (s : Settings) (pool : Value) (nodeId : String) :
    Raises (fun e => ∃ step, e.kind = .hostCreation step nodeId)
      (Lifecycle.build svc s pool nodeId) := by
  have wrapped : ∀ {α : Type} (x : Pass (StateM τ) α) step,
      Raises (fun e => ∃ step, e.kind = .hostCreation step nodeId) (Lifecycle.stepOf nodeId step x) :=
    fun _ step => Raises.tryCatch fun _ => Raises.raise ⟨step.name, rfl⟩
  unfold Lifecycle.build
  exact Raises.bind (wrapped _ _) fun _ => Raises.bind (wrapped _ _) fun _ =>
    Raises.bind (wrapped _ _) fun _ => Raises.bind (wrapped _ _) fun _ => wrapped _ _

theorem create_raises (s : Settings) (pool : Value) :
    Raises (fun e => ∃ step node, e.kind = .hostCreation step node)
      (Lifecycle.create svc s pool) := by
  unfold Lifecycle.create
  exact Raises.bind (Raises.lift _) fun _ =>
    Raises.mono (fun _ ⟨step, named⟩ => ⟨step, _, named⟩) (build_raises s pool _)

theorem createHosts_raises (s : Settings) (pool : Value) (count : Nat) (p : Progress) :
    Raises (fun e => e.kind = .cancelled) (createHosts svc s pool count p) := by
  induction count generalizing p with
  | zero => exact Raises.pure _
  | succ count later =>
    unfold createHosts
    refine Raises.bind (checkpoint_raises pool) fun _ => ?_
    -- a failed creation is counted: its fault is a creation fault, never raised again
    refine Raises.bind_returns (Raises.attempt _)
      (R := fun made => ∀ e, made = .error e → ∃ step node, e.kind = .hostCreation step node)
      (fun b t made ended e failed => ?_) fun made created => ?_
    · simp only [exec_attempt, Except.ok.injEq] at ended
      exact create_raises s pool b t e (ended.trans failed)
    · split
      · exact later _
      · next e =>
        obtain ⟨step, node, creation⟩ := created e rfl
        split
        · exact later _
        · next other => exact absurd creation (other step node)

theorem resume_raises (s : Settings) (pool target : Value) (queue : List SessionHost)
    (p : Progress) : Raises LateFault (resume svc s pool target queue p) := by
  induction queue generalizing p with
  | nil => exact Raises.pure _
  | cons h queue later =>
    unfold resume short
    refine Raises.bind (Raises.mono (fun _ data => .inr data)
      (check_raises (Value.relate_ofData _ _ _))) fun _ => Raises.ite (Raises.pure _) ?_
    refine Raises.bind (Raises.mono (fun _ cancelled => .inl cancelled) (checkpoint_raises pool))
      fun _ => Raises.bind (Raises.attempt _) fun woken => ?_
    split
    · exact later _
    · exact later _

theorem sweep_raises (s : Settings) (pool : Value) (known : List String) :
    Raises (fun e => e.kind.ofPass = false) (sweep svc s pool known) := by
  unfold sweep
  refine Raises.bind (Raises.lift _) fun listed => ?_
  split
  · exact Raises.pure _
  · refine Raises.bind (check_raises (OfData.filterM (ownedBy_ofData pool) _)) fun owned => ?_
    refine Raises.bind (check_raises (OfData.filterM (fun (n : ComputeNode) =>
      OfData.bind (Value.lower_ofData n.id) fun _ => OfData.ok _) _)) fun orphans => ?_
    exact Raises.bind (Raises.fanOut _ _) fun _ => Raises.pure _

theorem purgeAll_raises {Q : Fault → Prop} (hosts : List SessionHost) :
    Raises Q (purgeAll svc hosts) := by
  unfold purgeAll
  exact Raises.bind (Raises.fanOut _ _) fun _ => Raises.pure _

theorem disposeSurplus_raises {Q : Fault → Prop} (s : Settings) (surplus : List SessionHost) :
    Raises Q (disposeSurplus svc s surplus) := by
  unfold disposeSurplus
  split
  · exact Raises.pure _
  · split
    · exact Raises.bind (purgeAll_raises surplus) fun _ => Raises.pure _
    · exact Raises.pure _

theorem sweepOrphans_raises (s : Settings) (pool : Value) (known : List String) :
    Raises LateFault (sweepOrphans svc s pool known) := by
  unfold sweepOrphans
  split
  · exact Raises.bind (Raises.mono (fun _ cancelled => .inl cancelled) (checkpoint_raises pool))
      fun _ => Raises.mono (fun _ data => .inr data) (sweep_raises s pool known)
  · exact Raises.pure _

theorem converge_raises (s : Settings) (pool : Value) (v : Survey) :
    Raises LateFault (converge svc s pool v) := by
  have checked : Raises LateFault (checkpoint svc pool) :=
    Raises.mono (fun _ cancelled => .inl cancelled) (checkpoint_raises pool)
  unfold converge
  refine Raises.bind (purgeAll_raises _) fun stale => ?_
  refine Raises.bind checked fun _ => Raises.bind (resume_raises s pool _ _ _) fun resumed => ?_
  refine Raises.bind checked fun _ => Raises.bind (Raises.mono (fun _ data => .inr data)
    (check_raises (attemptsFor_ofData _ _))) fun count => ?_
  refine Raises.bind (Raises.mono (fun _ cancelled => .inl cancelled)
    (createHosts_raises s pool count _)) fun p => Raises.bind checked fun _ => ?_
  exact Raises.bind (disposeSurplus_raises s _) fun _ =>
    Raises.bind (sweepOrphans_raises s pool _) fun _ => Raises.pure _

theorem assess_raises (s : Settings) (pool : Value) (reservations : List Value) :
    Raises (fun e => e.kind = .cancelled ∨ e.kind = .reconcile ∨ e.kind.ofPass = false)
      (assess svc s pool reservations) := by
  have checked : Raises (fun e => e.kind = .cancelled ∨ e.kind = .reconcile ∨ e.kind.ofPass = false)
      (checkpoint svc pool) :=
    Raises.mono (fun _ cancelled => .inl cancelled) (checkpoint_raises pool)
  unfold assess
  refine Raises.bind checked fun _ => ?_
  refine Raises.bind (Raises.tryCatch fun _ => Raises.raise (.inr (.inl rfl))) fun hosts => ?_
  refine Raises.bind checked fun _ => Raises.bind (Raises.lift _) fun c => ?_
  exact Raises.bind checked fun _ => Raises.bind (Raises.mono (fun _ data => .inr (.inr data))
    (check_raises (Scaling.plan_ofData _ _ _))) fun _ => Raises.pure _

/-- A rebuild fails with its own fault when a listing fails, or with a fault of the data. -/
theorem rebuild_raises (pool : Value) :
    Raises (fun e => e.kind = .rebuild ∨ e.kind.ofPass = false) (Reservations.rebuild svc pool) := by
  unfold Reservations.rebuild
  refine Raises.bind (Raises.tryCatch fun _ => Raises.raise (.inl rfl)) fun slots => ?_
  refine Raises.bind (Raises.tryCatch fun _ => Raises.raise (.inl rfl)) fun inventory => ?_
  refine Raises.bind (Raises.fanOut _ _) fun outcomes => ?_
  exact Raises.bind (Raises.mono (fun _ data => .inr data) (check_raises (Value.asKey_ofData pool)))
    fun _ => Raises.bind (Raises.modify _) fun _ => Raises.pure _

/-- A rebuild that fails with its own fault fails before it judges any slot: it ends within
every frame its two listings keep. -/
theorem rebuild_refused {F : Frame τ} (listSlots : ∀ p, F.Op (svc.directory.listSlots p))
    (listAll : ∀ p, F.Op (svc.compute.listAll p)) (pool : Value) :
    KeepsOn (fun e => e.kind = .rebuild) F (Reservations.rebuild svc pool) := by
  unfold Reservations.rebuild
  refine KeepsOn.bind_keeps (Keeps.tryCatch (Keeps.call (listSlots pool)) fun _ => Keeps.raise _)
    fun slots => ?_
  refine KeepsOn.bind_keeps (Keeps.tryCatch (Keeps.bind (Keeps.call (listAll _))
    fun _ => Keeps.check _) fun _ => Keeps.raise _) fun inventory => KeepsOn.of_raises ?_
  -- past both listings only the pool's key can fail, with a fault of the data
  have keyed : Raises (fun e => ¬e.kind = .rebuild) (Pass.check pool.asKey : Pass (StateM τ) Value) :=
    Raises.mono (fun e data rebuilding => by rw [rebuilding] at data; cases data)
      (check_raises (Value.asKey_ofData pool))
  exact Raises.bind (Raises.fanOut _ _) fun _ => Raises.bind keyed fun _ =>
    Raises.bind (Raises.modify _) fun _ => Raises.pure _

theorem stages_raises (s : Settings) (pool : Value) :
    Raises (fun e => e.kind ≠ .lockTimeout) (stages svc s pool) := by
  have data : ∀ e : Fault, e.kind.ofPass = false → e.kind ≠ .lockTimeout := by
    intro e plain timeout
    rw [timeout] at plain
    cases plain
  have cancelled : ∀ e : Fault, e.kind = .cancelled → e.kind ≠ .lockTimeout := by
    intro e cancelled
    rw [cancelled]
    decide
  unfold stages survey
  refine Raises.bind (Raises.bind (Raises.mono cancelled (checkpoint_raises pool)) fun _ =>
    Raises.bind (Raises.mono ?_ (rebuild_raises pool)) fun r =>
      Raises.mono ?_ (assess_raises s pool r)) fun v => ?_
  · rintro e (rebuilt | plain)
    · rw [rebuilt]
      decide
    · exact data e plain
  · rintro e (halted | listing | plain)
    · exact cancelled e halted
    · rw [listing]
      decide
    · exact data e plain
  exact Raises.bind (Raises.mono cancelled (checkpoint_raises pool)) fun _ =>
    Raises.mono (fun e late => late.elim (cancelled e) (data e)) (converge_raises s pool v)

end DesktopPool.Reconcile
