import DesktopPool.Proofs.Pass.Locking
import DesktopPool.Proofs.Pass.Faults
import DesktopPool.Proofs.Pass.Trace
import DesktopPool.Proofs.World.Services
import DesktopPool.Proofs.Value.Whole

/-! Fatal faults of a pass, read off the calls of its traced run. The pass checks for
cancellation on entering each stage: locking, rebuilding the reservations, listing the hosts,
classifying them, computing the target, deleting stale hosts, and so on. A lock timeout, a
failed rebuild, a failed host listing, or a cancellation at one of the first six checks stops
the pass before it creates, starts or deletes a node or deletes a host record; a lock timeout,
a failed rebuild or a cancellation before the rebuild also stops it before it deletes a slot
or changes its books. However it ends, the pass gives back the lock it took. -/
namespace DesktopPool.Reconcile

open Pass

variable {σ : Type} (svc : Services (StateM σ))

theorem exec_checkpoint_traced (pool : Value) (b : Books) (t : σ) (log : List Call) :
    exec (checkpoint svc.traced pool) b (t, log) =
      if (svc.cancelled.run t).1 then
        ⟨.error (.make .cancelled s!"Reconciliation of pool {pool.text} was cancelled"), b,
          ((svc.cancelled.run t).2, log ++ [.cancelCheck true])⟩
      else ⟨.ok (), b, ((svc.cancelled.run t).2, log ++ [.cancelCheck false])⟩ := by
  unfold checkpoint
  rw [exec_bind]
  rcases answer : (svc.cancelled.run t).1 with _ | _
  · simp [Services.traced, answer]
  · simp [Services.traced, answer]

theorem surveyWithin_traced :
    SurveyWithin (callFrame fun c => c.touchesHosts = false) svc.traced where
  cancelled := record_op fun _ => rfl
  listSlots := fun _ => record_op fun _ => rfl
  listAll := fun _ => record_op fun _ => rfl
  assignments := fun _ => record_op fun _ => rfl
  deleteSlot := fun _ => record_op fun _ => rfl
  listHosts := fun _ => record_op fun _ => rfl
  get := fun _ _ => record_op fun _ => rfl

theorem convergeWithin_traced : ConvergeWithin (callFrame fun _ => True) svc.traced where
  cancelled := record_op fun _ => trivial
  deleteHost := fun _ => record_op fun _ => trivial
  delete := fun _ => record_op fun _ => trivial
  start := fun _ => record_op fun _ => trivial
  waitReady := fun _ _ _ => record_op fun _ => trivial
  fresh := record_op fun _ => trivial
  create := fun _ => record_op fun _ => trivial
  registrationToken := fun _ => record_op fun _ => trivial
  runScript := fun _ _ _ _ => record_op fun _ => trivial
  listAll := fun _ => record_op fun _ => trivial

theorem survey_calls (s : Settings) (pool : Value) :
    Calls (fun c => c.touchesHosts = false) (survey svc.traced s pool) :=
  survey_keeps (surveyWithin_traced svc) s pool fun b t _ => books_calls b _ t

theorem checkpoint_goesOn (pool : Value) : GoesOn 1 (checkpoint svc.traced pool) := by
  rintro b ⟨t, log⟩ a ended
  rw [exec_checkpoint_traced] at ended ⊢
  by_cases cancelled : (svc.cancelled.run t).1 = true
  · simp [cancelled] at ended
  · simp only [cancelled, Bool.false_eq_true, if_false]
    exact ⟨[.cancelCheck false], rfl, by decide⟩

theorem survey_goesOn (s : Settings) (pool : Value) : GoesOn 4 (survey svc.traced s pool) := by
  have within := surveyWithin_traced svc
  have checked := checkpoint_goesOn svc pool
  have rebuilt : GoesOn 0 (Reservations.rebuild svc.traced pool) :=
    GoesOn.of_calls (rebuild_keeps within pool fun b t _ => books_calls b _ t)
  have assessed : ∀ reservations, GoesOn 3 (assess svc.traced s pool reservations) := by
    intro reservations
    unfold assess
    show GoesOn (1 + (0 + (1 + (0 + (1 + (0 + 0)))))) _
    refine GoesOn.bind checked fun _ => GoesOn.bind (GoesOn.of_calls (Keeps.tryCatch
      (Keeps.call (within.listHosts pool)) fun _ => Keeps.raise _)) fun hosts => ?_
    refine GoesOn.bind checked fun _ =>
      GoesOn.bind (GoesOn.of_calls (Keeps.lift (classify_op within.get hosts))) fun _ => ?_
    exact GoesOn.bind checked fun _ => GoesOn.bind (GoesOn.check _) fun _ => GoesOn.pure _
  show GoesOn (1 + (0 + 3)) _
  exact GoesOn.bind checked fun _ => GoesOn.bind rebuilt assessed

theorem converge_calls (s : Settings) (pool : Value) (v : Survey) :
    Calls (fun _ => True) (converge svc.traced s pool v) :=
  converge_keeps (convergeWithin_traced svc) s pool v

/-- A run of the stages that touches a host has passed five checkpoints first, and then ends
only with a cancellation or a fault of the data. -/
theorem stages_touching (s : Settings) (pool : Value) (b : Books) (t : σ) (log : List Call) :
    ∃ new, (exec (stages svc.traced s pool) b (t, log)).state.2 = log ++ new ∧
      ((∀ c ∈ new, c.touchesHosts = false) ∨
        (5 ≤ new.countP Call.goesOn ∧
          ∀ e, (exec (stages svc.traced s pool) b (t, log)).outcome = .error e → LateFault e)) := by
  obtain ⟨surveyed, grown, calm⟩ := survey_calls svc s pool b (t, log)
  unfold stages
  rw [exec_bind]
  rcases hv : exec (survey svc.traced s pool) b (t, log) with ⟨e | v, b', t', log'⟩
  · -- the survey failed, having touched no host
    rw [hv] at grown
    exact ⟨surveyed, grown, .inl calm⟩
  obtain ⟨new, grown', passed⟩ := survey_goesOn svc s pool b (t, log) v (by rw [hv])
  rw [hv] at grown grown'
  have same : new = surveyed := List.append_cancel_left (grown'.symm.trans grown)
  subst same
  dsimp only at grown ⊢
  rw [exec_bind, exec_checkpoint_traced]
  by_cases cancelled : (svc.cancelled.run t').1 = true
  · -- cancelled on entering the deletion of stale hosts
    simp only [cancelled, if_true]
    refine ⟨new ++ [.cancelCheck true], by simp [grown], .inl ?_⟩
    intro c member
    rcases List.mem_append.mp member with early | last
    · exact calm c early
    · simp at last
      rw [last]
      rfl
  · simp only [cancelled, Bool.false_eq_true, if_false]
    obtain ⟨more, grown'', -⟩ :=
      converge_calls svc s pool v b' ((svc.cancelled.run t').2, log' ++ [.cancelCheck false])
    refine ⟨new ++ .cancelCheck false :: more, by rw [grown'']; simp [grown], .inr ⟨?_, ?_⟩⟩
    · rw [List.countP_append, List.countP_cons]
      simp only [Call.goesOn, if_true]
      omega
    · exact fun e ended => converge_raises s pool v _ _ e ended

def slotsKept : Frame (σ × List Call) where
  rel := fun p q => q.1 = p.1 ∧ ∃ new, q.2.2 = p.2.2 ++ new ∧ ∀ c ∈ new, c.deletesSlot = false
  refl := fun _ => ⟨rfl, [], by simp, by simp⟩
  trans := by
    rintro _ _ _ ⟨same, new, grown, kept⟩ ⟨same', more, grown', kept'⟩
    refine ⟨same'.trans same, new ++ more, by rw [grown', grown, List.append_assoc], ?_⟩
    intro c member
    rcases List.mem_append.mp member with early | late
    · exact kept c early
    · exact kept' c late

theorem survey_early (s : Settings) (pool : Value) (b : Books) (t : σ) (log : List Call)
    (e : Fault) (failed : (exec (survey svc.traced s pool) b (t, log)).outcome = .error e)
    (early : e.kind = .rebuild ∨ (e.kind = .cancelled ∧
      (exec (survey svc.traced s pool) b (t, log)).state.2.countP Call.goesOn ≤
        log.countP Call.goesOn)) :
    (exec (survey svc.traced s pool) b (t, log)).books = b ∧
      ∃ new, (exec (survey svc.traced s pool) b (t, log)).state.2 = log ++ new ∧
        ∀ c ∈ new, c.deletesSlot = false := by
  have within := surveyWithin_traced svc
  unfold survey at failed early ⊢
  rw [exec_bind, exec_checkpoint_traced] at failed early ⊢
  by_cases cancelled : (svc.cancelled.run t).1 = true
  · -- cancelled on entering the rebuild
    refine ⟨by simp [cancelled], [.cancelCheck true], by simp [cancelled], ?_⟩
    simp [Call.deletesSlot]
  simp only [cancelled, Bool.false_eq_true, if_false] at failed early ⊢
  -- past the first checkpoint only a rebuild fault is early, and it keeps the books and slots
  have rebuilding : e.kind = .rebuild := by
    rcases early with rebuilding | ⟨-, counted⟩
    · exact rebuilding
    obtain ⟨more, grown, -⟩ := Keeps.bind (rebuild_keeps within pool fun b t _ => books_calls b _ t)
      (assess_keeps within s pool) b ((svc.cancelled.run t).2, log ++ [Call.cancelCheck false])
    rw [grown, List.countP_append, List.countP_append] at counted
    simp [Call.goesOn] at counted
    omega
  have listed : ∀ p, (slotsKept (σ := σ)).Op (svc.traced.directory.listSlots p) :=
    fun _ _ _ => ⟨rfl, [_], rfl, by simp [Call.deletesSlot]⟩
  have fetched : ∀ p, (slotsKept (σ := σ)).Op (svc.traced.compute.listAll p) :=
    fun _ _ _ => ⟨rfl, [_], rfl, by simp [Call.deletesSlot]⟩
  have assessed : ∀ r, Raises (fun e => ¬e.kind = .rebuild) (assess svc.traced s pool r) :=
    fun r => Raises.mono (fun e late rebuilt => by rw [rebuilt] at late; simp [Kind.ofPass] at late)
      (assess_raises s pool r)
  obtain ⟨same, more, grown, kept⟩ :=
    KeepsOn.bind_raises (rebuild_refused listed fetched pool) assessed b _ e failed rebuilding
  refine ⟨same, .cancelCheck false :: more, by rw [grown]; simp, ?_⟩
  intro c member
  rcases List.mem_cons.mp member with first | later
  · rw [first]
    rfl
  · exact kept c later

/-- A run of the stages that ends with a rebuild fault, or with a cancellation before any check
lets it go on, leaves the books as they were and deletes no slot. -/
theorem stages_early (s : Settings) (pool : Value) (b : Books) (t : σ) (log : List Call)
    (e : Fault) (failed : (exec (stages svc.traced s pool) b (t, log)).outcome = .error e)
    (early : e.kind = .rebuild ∨ (e.kind = .cancelled ∧
      (exec (stages svc.traced s pool) b (t, log)).state.2.countP Call.goesOn ≤
        log.countP Call.goesOn)) :
    (exec (stages svc.traced s pool) b (t, log)).books = b ∧
      ∃ new, (exec (stages svc.traced s pool) b (t, log)).state.2 = log ++ new ∧
        ∀ c ∈ new, c.deletesSlot = false := by
  unfold stages at failed early ⊢
  rw [exec_bind] at failed early ⊢
  rcases hv : exec (survey svc.traced s pool) b (t, log) with ⟨e' | v, b', t', log'⟩
  · -- the survey failed, early
    rw [hv] at failed early
    cases failed
    have surveyed := survey_early svc s pool b t log e (by rw [hv]) (by rw [hv]; exact early)
    rw [hv] at surveyed
    exact surveyed
  rw [hv] at failed early
  dsimp only at failed early
  exfalso
  obtain ⟨new, grown, passed⟩ := survey_goesOn svc s pool b (t, log) v (by rw [hv])
  rw [hv] at grown
  dsimp only at grown
  have late : LateFault e :=
    Raises.bind (Raises.mono (fun _ cancelled => .inl cancelled) (checkpoint_raises pool))
      (fun _ => converge_raises s pool v) b' (t', log') e failed
  rcases early with rebuilt | ⟨-, counted⟩
  · rcases late with cancelled | plain
    · rw [rebuilt] at cancelled
      cases cancelled
    · rw [rebuilt] at plain
      cases plain
  · obtain ⟨more, grown', -⟩ := Keeps.bind
      (checkpoint_keeps (convergeWithin_traced svc).cancelled pool)
      (fun _ => converge_calls svc s pool v) b' (t', log')
    rw [grown', show (t', log').2 = log' from rfl, grown, List.countP_append,
      List.countP_append] at counted
    omega

/-- How a traced pass ends: at its first checkpoint or refused the lock, with the books as they
were and one call made; or past the lock, as the stages end from the state the first check left
and the books with the lock held, the lock given back. -/
theorem ensureCapacity_traced (s : Settings) (pool : Value) (b : Books) (t : σ) :
    (∃ answer, (exec (ensureCapacity svc.traced s pool) b (t, [])).books = b ∧
      (exec (ensureCapacity svc.traced s pool) b (t, [])).state.2 = [.cancelCheck answer]) ∨
    exec (ensureCapacity svc.traced s pool) b (t, []) =
      let r := exec (stages svc.traced s pool) { b with locked := pool :: b.locked }
        ((svc.cancelled.run t).2, [.cancelCheck false])
      ⟨r.outcome,
        { r.books with locked := r.books.locked.eraseP fun p => !pool.same pool || p.same pool },
        r.state⟩ := by
  unfold ensureCapacity
  rw [exec_bind, exec_checkpoint_traced]
  by_cases cancelled : (svc.cancelled.run t).1 = true
  · exact .inl ⟨true, by simp [cancelled]⟩
  simp only [cancelled, Bool.false_eq_true, if_false, List.nil_append]
  rcases exec_locked s pool (stages svc.traced s pool) b
      ((svc.cancelled.run t).2, [.cancelCheck false]) with ⟨e, refused⟩ | ⟨-, taken⟩
  · exact .inl ⟨false, by rw [refused], by rw [refused]⟩
  · exact .inr taken

/-- A pass that times out on the lock, fails its rebuild or its host listing, or is cancelled at
one of its checkpoints up to the one before the stale hosts are deleted, has created, started
and deleted no node and deleted no host record. One that times out on the lock, fails its
rebuild or is cancelled before the rebuild has besides deleted no slot and left its books, the
reservation sets among them, as they were. However a pass or a rebuild ends, it leaves the
locks held as it found them: the lock it took is given back once, and no other. -/
theorem fatal_faults_touch_nothing (s : Settings) (pool : Value) (b : Books) (t : σ) :
    let run := exec (ensureCapacity svc.traced s pool) b (t, [])
    (∀ e, run.outcome = .error e →
      e.kind = .lockTimeout ∨ e.kind = .rebuild ∨ e.kind = .reconcile ∨
        (e.kind = .cancelled ∧ run.state.2.countP Call.goesOn ≤ 5) →
      ∀ c ∈ run.state.2, c.touchesHosts = false) ∧
    (∀ e, run.outcome = .error e →
      e.kind = .lockTimeout ∨ e.kind = .rebuild ∨
        (e.kind = .cancelled ∧ run.state.2.countP Call.goesOn ≤ 1) →
      run.books = b ∧ ∀ c ∈ run.state.2, c.deletesSlot = false) ∧
    ∀ u : σ, (exec (ensureCapacity svc s pool) b u).books.locked = b.locked ∧
      (exec (rebuildReservations svc s pool) b u).books.locked = b.locked := by
  dsimp only
  refine ⟨?_, ?_, fun u =>
    ⟨ensureCapacity_keeps_locks svc s pool b u, rebuildReservations_keeps_locks svc s pool b u⟩⟩
  · rcases ensureCapacity_traced svc s pool b t with ⟨answer, -, logged⟩ | ran
    · -- stopped before the lock, having only asked whether to go on
      intro e _ _ c member
      rw [logged, List.mem_singleton] at member
      rw [member]
      rfl
    rw [ran]
    generalize (svc.cancelled.run t).2 = t'
    dsimp only
    intro e failed fatal
    obtain ⟨new, grown, quiet | ⟨passed, late⟩⟩ :=
      stages_touching svc s pool { b with locked := pool :: b.locked } t' [.cancelCheck false]
    · intro c member
      rw [grown] at member
      rcases List.mem_append.mp member with first | later
      · rw [List.mem_singleton.mp first]
        rfl
      · exact quiet c later
    -- a run that touched a host ends late: not with these faults, nor cancelled this early
    exfalso
    have lateFault := late e failed
    rcases fatal with timeout | rebuilt | listing | ⟨cancelled, counted⟩
    · exact not_lateFault (by rw [timeout]; rfl) (by rw [timeout]; decide) lateFault
    · exact not_lateFault (by rw [rebuilt]; rfl) (by rw [rebuilt]; decide) lateFault
    · exact not_lateFault (by rw [listing]; rfl) (by rw [listing]; decide) lateFault
    · rw [grown, List.countP_append] at counted
      have first : [Call.cancelCheck false].countP Call.goesOn = 1 := rfl
      omega
  · rcases ensureCapacity_traced svc s pool b t with ⟨answer, same, logged⟩ | ran
    · intro e _ _
      refine ⟨same, fun c member => ?_⟩
      rw [logged, List.mem_singleton] at member
      rw [member]
      rfl
    rw [ran]
    generalize (svc.cancelled.run t).2 = t'
    dsimp only
    intro e failed early
    have held : b.locked = (pool :: b.locked).eraseP fun p => !pool.same pool || p.same pool :=
      (giveBack_latest pool b.locked).symm
    -- past the lock no stage times out on it, so the fault is early in the stages
    have early' : e.kind = .rebuild ∨ (e.kind = .cancelled ∧
        (exec (stages svc.traced s pool) { b with locked := pool :: b.locked }
          (t', [.cancelCheck false])).state.2.countP Call.goesOn ≤
          [Call.cancelCheck false].countP Call.goesOn) := by
      rcases early with timeout | rebuilt | counted
      · exact absurd timeout (stages_raises s pool _ _ e failed)
      · exact .inl rebuilt
      · exact .inr counted
    obtain ⟨kept, new, grown, unslotted⟩ :=
      stages_early svc s pool _ t' [.cancelCheck false] e failed early'
    refine ⟨by rw [kept]; exact congrArg (fun l => { b with locked := l }) held.symm, ?_⟩
    intro c member
    rw [grown] at member
    rcases List.mem_append.mp member with first | later
    · rw [List.mem_singleton.mp first]
      rfl
    · exact unslotted c later

/-- Each fatal fault stops a pass over `surplusScene` that would otherwise delete five things: a
lock already held, a failed slot listing, a failed host listing and a cancellation at the sixth
check. A cancellation at the seventh check comes after the stale host was purged. -/
theorem fatal_faults_spare_surplus_scene :
    let run := fun (svc : Services (StateM Scene)) (b : Books) (sc : Scene) =>
      exec (ensureCapacity svc.traced (fixedSettings 1) (.str "HP")) b (sc, [])
    let kind := fun svc b sc => Outcome.faultKind (run svc b sc).outcome
    let quiet := fun svc b sc => ∀ c ∈ (run svc b sc).state.2, c.touchesHosts = false
    let hooks := Scene.services default false
    let down := fun method => { surplusScene with failure := some ⟨method, 1, "down"⟩ }
    (kind hooks { locked := [.str "HP"] } surplusScene = some .lockTimeout ∧
      quiet hooks { locked := [.str "HP"] } surplusScene) ∧
    (kind hooks {} (down "list_app_groups") = some .rebuild ∧
      quiet hooks {} (down "list_app_groups")) ∧
    (kind hooks {} (down "list_hosts") = some .reconcile ∧ quiet hooks {} (down "list_hosts")) ∧
    (kind (Scene.stoppingAt 6) {} surplusScene = some .cancelled ∧
      quiet (Scene.stoppingAt 6) {} surplusScene) ∧
    kind (Scene.stoppingAt 7) {} surplusScene = some .cancelled ∧
      ¬quiet (Scene.stoppingAt 7) {} surplusScene := by
  intro run kind quiet hooks down
  have spared : ∀ svc b sc k, kind svc b sc = some k →
      k = .lockTimeout ∨ k = .rebuild ∨ k = .reconcile ∨
        (k = .cancelled ∧ (run svc b sc).state.2.countP Call.goesOn ≤ 5) → quiet svc b sc := by
    intro svc b sc k ended fatal
    obtain ⟨e, failed, rfl⟩ := Outcome.faultKind_eq_some.mp ended
    exact (fatal_faults_touch_nothing svc (fixedSettings 1) (.str "HP") b sc).1 e failed fatal
  -- the runs are closed: the kernel evaluates how each ends
  have timedOut : kind hooks { locked := [.str "HP"] } surplusScene = some .lockTimeout := by
    decide +kernel
  have slotsDown : kind hooks {} (down "list_app_groups") = some .rebuild := by decide +kernel
  have hostsDown : kind hooks {} (down "list_hosts") = some .reconcile := by decide +kernel
  have sixth : kind (Scene.stoppingAt 6) {} surplusScene = some .cancelled := by decide +kernel
  have fiveWent : (run (Scene.stoppingAt 6) {} surplusScene).state.2.countP Call.goesOn = 5 := by
    decide +kernel
  have seventh : kind (Scene.stoppingAt 7) {} surplusScene = some .cancelled := by decide +kernel
  have purged : (run (Scene.stoppingAt 7) {} surplusScene).state.2.any Call.touchesHosts = true := by
    decide +kernel
  refine ⟨⟨timedOut, spared _ _ _ _ timedOut (.inl rfl)⟩,
    ⟨slotsDown, spared _ _ _ _ slotsDown (.inr (.inl rfl))⟩,
    ⟨hostsDown, spared _ _ _ _ hostsDown (.inr (.inr (.inl rfl)))⟩,
    ⟨sixth, spared _ _ _ _ sixth (.inr (.inr (.inr ⟨rfl, Nat.le_of_eq fiveWent⟩)))⟩, seventh, fun still => ?_⟩
  obtain ⟨c, member, touches⟩ := List.any_eq_true.mp purged
  rw [still c member] at touches
  cases touches

end DesktopPool.Reconcile
