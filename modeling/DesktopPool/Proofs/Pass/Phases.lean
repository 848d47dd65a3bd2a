import DesktopPool.Proofs.Pass.Run

/-! Frames of the stages of a pass. Each stage uses a few service operations and, besides,
only the books; when those operations stay within a frame, so does the stage. The survey
(rebuild, listing, classification, plan) uses the cancellation check, listings, lookups and slot
deletions; the converging stages (stale and surplus purges, resumes, creations, the sweep) use
the cancellation check, deletions, starts, waits, fresh numbers, creations, registration
tokens, setup scripts and the node listing. -/
namespace DesktopPool.Reconcile

open Pass

variable {τ : Type} {F : Frame τ} {svc : Services (StateM τ)}

/-- The operations of a survey stay within frame `F`. -/
structure SurveyWithin (F : Frame τ) (svc : Services (StateM τ)) : Prop where
  cancelled : F.Op svc.cancelled
  listSlots : ∀ pool, F.Op (svc.directory.listSlots pool)
  listAll : ∀ p, F.Op (svc.compute.listAll p)
  assignments : ∀ name, F.Op (svc.directory.assignments name)
  deleteSlot : ∀ name, F.Op (svc.directory.deleteSlot name)
  listHosts : ∀ pool, F.Op (svc.directory.listHosts pool)
  get : ∀ id full, F.Op (svc.compute.get id full)

/-- The operations of the converging stages stay within frame `F`. -/
structure ConvergeWithin (F : Frame τ) (svc : Services (StateM τ)) : Prop where
  cancelled : F.Op svc.cancelled
  deleteHost : ∀ h, F.Op (svc.directory.deleteHost h)
  delete : ∀ id, F.Op (svc.compute.delete id)
  start : ∀ id, F.Op (svc.compute.start id)
  waitReady : ∀ pool id t, F.Op (svc.directory.waitReady pool id t)
  fresh : F.Op svc.fresh
  create : ∀ spec, F.Op (svc.compute.create spec)
  registrationToken : ∀ pool, F.Op (svc.directory.registrationToken pool)
  runScript : ∀ id script t poll, F.Op (svc.compute.runScript id script t poll)
  listAll : ∀ p, F.Op (svc.compute.listAll p)

/-- `μ` counts the fresh numbers drawn: every operation of the converging stages but the draw
leaves it as it is, and a draw adds one. -/
structure DrawCounter (μ : τ → Nat) (svc : Services (StateM τ)) : Prop where
  cancelled : (Frame.fixing μ).Op svc.cancelled
  deleteHost : ∀ h, (Frame.fixing μ).Op (svc.directory.deleteHost h)
  delete : ∀ id, (Frame.fixing μ).Op (svc.compute.delete id)
  start : ∀ id, (Frame.fixing μ).Op (svc.compute.start id)
  waitReady : ∀ pool id t, (Frame.fixing μ).Op (svc.directory.waitReady pool id t)
  create : ∀ spec, (Frame.fixing μ).Op (svc.compute.create spec)
  registrationToken : ∀ pool, (Frame.fixing μ).Op (svc.directory.registrationToken pool)
  runScript : ∀ id script t poll, (Frame.fixing μ).Op (svc.compute.runScript id script t poll)
  listAll : ∀ p, (Frame.fixing μ).Op (svc.compute.listAll p)
  fresh : ∀ t, μ (svc.fresh.run t).2 = μ t + 1

theorem checkpoint_keeps (cancelled : F.Op svc.cancelled) (pool : Value) :
    Keeps F (checkpoint svc pool) := by
  unfold checkpoint
  exact Keeps.bind (Keeps.lift cancelled) fun _ => Keeps.ite (Keeps.raise _) (Keeps.pure _)

theorem nodeExists_op (get : ∀ id full, F.Op (svc.compute.get id full)) (h : SessionHost) :
    F.Op (nodeExists svc.compute h) := by
  unfold nodeExists
  split
  · exact Frame.Op.pure _
  · refine Frame.Op.bind (get _ _) fun found => ?_
    split <;> exact Frame.Op.pure _

theorem classify_op (get : ∀ id full, F.Op (svc.compute.get id full)) (hosts : List SessionHost) :
    F.Op (classify svc.compute hosts) := by
  induction hosts with
  | nil => exact Frame.Op.pure _
  | cons h rest sorted =>
    have next : ∀ into : Classification → Classification,
        F.Op (do let c ← classify svc.compute rest; pure (into c)) :=
      fun into => Frame.Op.bind sorted fun c => Frame.Op.pure _
    unfold classify
    dsimp only
    split
    · exact Frame.Op.bind (Frame.Op.pure _) next
    · split
      · exact Frame.Op.bind (Frame.Op.pure _) next
      · split
        · refine Frame.Op.bind (nodeExists_op get h) fun _ => ?_
          split <;> exact Frame.Op.bind (Frame.Op.pure _) next
        · exact Frame.Op.bind (Frame.Op.pure _) next

/-- A purge of `h` deletes its record and, when its name parses, the node the name names. -/
theorem purge_op {h : SessionHost} (deleteHost : F.Op (svc.directory.deleteHost h))
    (delete : ∀ p, h.parts = .ok p → F.Op (svc.compute.delete (.str p.node))) :
    F.Op (Lifecycle.purge svc h) := by
  unfold Lifecycle.purge
  rcases parsed : h.parts with e | p
  · simp only
    repeat' first
      | exact Frame.Op.pure _
      | exact deleteHost
      | refine Frame.Op.bind ?_ fun _ => ?_
      | split
  · simp only
    repeat' first
      | exact Frame.Op.pure _
      | exact deleteHost
      | exact delete p parsed
      | refine Frame.Op.bind ?_ fun _ => ?_
      | split

theorem purgeAll_keeps (deleteHost : ∀ h, F.Op (svc.directory.deleteHost h))
    (delete : ∀ id, F.Op (svc.compute.delete id)) (hosts : List SessionHost) :
    Keeps F (purgeAll svc hosts) := by
  unfold purgeAll
  exact Keeps.bind (Keeps.fanOut fun h _ => Keeps.lift (purge_op (deleteHost h) fun _ _ => delete _))
    fun _ => Keeps.pure _

theorem validate_keeps (within : SurveyWithin F svc) (inventory : List ComputeNode)
    (slot : AppGroup) : Keeps F (Reservations.validate svc inventory slot) := by
  unfold Reservations.validate Reservations.invalidate
  repeat' first
    | exact Keeps.pure _
    | exact Keeps.check _
    | exact Keeps.lift (within.assignments _)
    | exact Keeps.lift (within.deleteSlot _)
    | refine Keeps.bind ?_ fun _ => ?_
    | split

theorem rebuild_keeps (within : SurveyWithin F svc) (pool : Value)
    (store : ∀ b t ids, F.rel (b, t) (b.replaceReservations pool ids, t)) :
    Keeps F (Reservations.rebuild svc pool) := by
  unfold Reservations.rebuild
  refine Keeps.bind (Keeps.tryCatch (Keeps.call (within.listSlots pool))
    fun _ => Keeps.raise _) fun slots => ?_
  refine Keeps.bind (Keeps.tryCatch (Keeps.bind (Keeps.call (within.listAll _))
    fun _ => Keeps.check _) fun _ => Keeps.raise _) fun inventory => ?_
  refine Keeps.bind (Keeps.fanOut fun slot _ => validate_keeps within inventory slot) fun outcomes => ?_
  refine Keeps.bind (Keeps.check _) fun _ => ?_
  exact Keeps.bind (Keeps.modify fun b t => store b t _) fun _ => Keeps.pure _

theorem assess_keeps (within : SurveyWithin F svc) (s : Settings) (pool : Value)
    (reservations : List Value) : Keeps F (assess svc s pool reservations) := by
  have checked := checkpoint_keeps within.cancelled pool
  unfold assess
  refine Keeps.bind checked fun _ => ?_
  refine Keeps.bind (Keeps.tryCatch (Keeps.call (within.listHosts pool)) fun _ => Keeps.raise _)
    fun hosts => ?_
  refine Keeps.bind checked fun _ => Keeps.bind (Keeps.lift (classify_op within.get hosts))
    fun _ => ?_
  exact Keeps.bind checked fun _ => Keeps.bind (Keeps.check _) fun _ => Keeps.pure _

theorem survey_keeps (within : SurveyWithin F svc) (s : Settings) (pool : Value)
    (store : ∀ b t ids, F.rel (b, t) (b.replaceReservations pool ids, t)) :
    Keeps F (survey svc s pool) :=
  Keeps.bind (checkpoint_keeps within.cancelled pool) fun _ =>
    Keeps.bind (rebuild_keeps within pool store) (assess_keeps within s pool)

theorem wake_keeps (start : ∀ id, F.Op (svc.compute.start id))
    (waitReady : ∀ pool id t, F.Op (svc.directory.waitReady pool id t)) (s : Settings)
    (pool : Value) (h : SessionHost) : Keeps F (wake svc s pool h) := by
  unfold wake
  exact Keeps.bind (Keeps.check _) fun parts => Keeps.bind (Keeps.call (start _))
    fun _ => Keeps.call (waitReady _ _ _)

theorem resume_keeps (cancelled : F.Op svc.cancelled) (start : ∀ id, F.Op (svc.compute.start id))
    (waitReady : ∀ pool id t, F.Op (svc.directory.waitReady pool id t)) (s : Settings)
    (pool target : Value) (queue : List SessionHost) (p : Progress) :
    Keeps F (resume svc s pool target queue p) := by
  induction queue generalizing p with
  | nil => exact Keeps.pure _
  | cons h queue later =>
    unfold resume
    refine Keeps.bind (Keeps.check _) fun _ => ?_
    refine Keeps.ite (Keeps.pure _) ?_
    refine Keeps.bind (checkpoint_keeps cancelled pool) fun _ => ?_
    refine Keeps.bind (Keeps.attempt (wake_keeps start waitReady s pool h)) fun woken => ?_
    split
    · exact later _
    · exact later _

theorem stepOf_keeps {α : Type} {x : Pass (StateM τ) α} (keeps : Keeps F x) (nodeId : String)
    (step : CreationStep) : Keeps F (Lifecycle.stepOf nodeId step x) :=
  Keeps.tryCatch keeps fun _ => Keeps.raise _

theorem build_keeps (create : ∀ spec, F.Op (svc.compute.create spec))
    (registrationToken : ∀ pool, F.Op (svc.directory.registrationToken pool))
    (runScript : ∀ id script t poll, F.Op (svc.compute.runScript id script t poll))
    (waitReady : ∀ pool id t, F.Op (svc.directory.waitReady pool id t)) (s : Settings)
    (pool : Value) (nodeId : String) : Keeps F (Lifecycle.build svc s pool nodeId) := by
  unfold Lifecycle.build
  refine Keeps.bind (stepOf_keeps (Keeps.bind (Keeps.check _)
    fun spec => Keeps.bind (Keeps.call (create spec)) fun _ => Keeps.pure _) _ _)
    fun _ => ?_
  refine Keeps.bind (stepOf_keeps (Keeps.call (registrationToken pool)) _ _) fun token => ?_
  refine Keeps.bind (stepOf_keeps (Keeps.check _) _ _) fun script => ?_
  refine Keeps.bind (stepOf_keeps (Keeps.call (runScript _ _ _ _)) _ _) fun _ => ?_
  exact stepOf_keeps (Keeps.call (waitReady _ _ _)) _ _

theorem create_keeps (within : ConvergeWithin F svc) (s : Settings) (pool : Value) :
    Keeps F (Lifecycle.create svc s pool) := by
  unfold Lifecycle.create
  exact Keeps.bind (Keeps.lift within.fresh) fun n => build_keeps within.create
    within.registrationToken within.runScript within.waitReady s pool _

theorem createHosts_keeps (within : ConvergeWithin F svc) (s : Settings) (pool : Value)
    (count : Nat) (p : Progress) : Keeps F (createHosts svc s pool count p) := by
  induction count generalizing p with
  | zero => exact Keeps.pure _
  | succ count later =>
    unfold createHosts
    refine Keeps.bind (checkpoint_keeps within.cancelled pool) fun _ => ?_
    refine Keeps.bind (Keeps.attempt (create_keeps within s pool)) fun made => ?_
    split
    · exact later _
    · split
      · exact later _
      · exact Keeps.raise _

theorem sweep_keeps (listAll : ∀ p, F.Op (svc.compute.listAll p))
    (delete : ∀ id, F.Op (svc.compute.delete id)) (s : Settings) (pool : Value)
    (known : List String) : Keeps F (sweep svc s pool known) := by
  unfold sweep
  refine Keeps.bind (Keeps.lift (listAll _)) fun listed => ?_
  split
  · exact Keeps.pure _
  · refine Keeps.bind (Keeps.check _) fun owned => Keeps.bind (Keeps.check _) fun orphans => ?_
    exact Keeps.bind (Keeps.fanOut fun id _ => Keeps.call (delete id))
      fun _ => Keeps.pure _

theorem disposeSurplus_keeps (deleteHost : ∀ h, F.Op (svc.directory.deleteHost h))
    (delete : ∀ id, F.Op (svc.compute.delete id)) (s : Settings) (surplus : List SessionHost) :
    Keeps F (disposeSurplus svc s surplus) := by
  unfold disposeSurplus
  split
  · exact Keeps.pure _
  · split
    · exact Keeps.bind (purgeAll_keeps deleteHost delete surplus) fun _ => Keeps.pure _
    · exact Keeps.pure _

theorem sweepOrphans_keeps (cancelled : F.Op svc.cancelled)
    (listAll : ∀ p, F.Op (svc.compute.listAll p)) (delete : ∀ id, F.Op (svc.compute.delete id))
    (s : Settings) (pool : Value) (known : List String) :
    Keeps F (sweepOrphans svc s pool known) := by
  unfold sweepOrphans
  split
  · exact Keeps.bind (checkpoint_keeps cancelled pool) fun _ => sweep_keeps listAll delete s pool known
  · exact Keeps.pure _

theorem converge_keeps (within : ConvergeWithin F svc) (s : Settings) (pool : Value)
    (v : Survey) : Keeps F (converge svc s pool v) := by
  have checked := checkpoint_keeps within.cancelled pool
  unfold converge
  refine Keeps.bind (purgeAll_keeps within.deleteHost within.delete _) fun _ => ?_
  refine Keeps.bind checked fun _ =>
    Keeps.bind (resume_keeps within.cancelled within.start within.waitReady s pool _ _ _)
      fun resumed => ?_
  refine Keeps.bind checked fun _ => Keeps.bind (Keeps.check _) fun count => ?_
  refine Keeps.bind (createHosts_keeps within s pool count _) fun p => ?_
  refine Keeps.bind checked fun _ => ?_
  refine Keeps.bind (disposeSurplus_keeps within.deleteHost within.delete s _) fun disposed => ?_
  exact Keeps.bind (sweepOrphans_keeps within.cancelled within.listAll within.delete s pool _)
    fun _ => Keeps.pure _

theorem stages_keeps (surveyed : SurveyWithin F svc) (converging : ConvergeWithin F svc)
    (s : Settings) (pool : Value)
    (store : ∀ b t ids, F.rel (b, t) (b.replaceReservations pool ids, t)) :
    Keeps F (stages svc s pool) :=
  Keeps.bind (survey_keeps surveyed s pool store) fun v =>
    Keeps.bind (checkpoint_keeps converging.cancelled pool) fun _ => converge_keeps converging s pool v

end DesktopPool.Reconcile
