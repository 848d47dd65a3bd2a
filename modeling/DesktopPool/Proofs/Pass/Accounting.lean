import DesktopPool.Proofs.World.Services
import DesktopPool.Proofs.Pass.Locking
import DesktopPool.Proofs.Value.Whole

/-! How a pass that ends well accounts for the hosts it found. With a whole-number target `T`
and `U` hosts up, the pass tries to wake the sleeping hosts from the front of the queue, each
once, while fewer than `T` are up, and stops at the end of the queue or at the host whose
waking brings the count to `T`; it then makes `T - U - woken` creation attempts, if that is
positive, each drawing one node id and counted as made or failed; and it deletes or keeps
powered off, as the settings say, the sleeping hosts it never tried. In the in-memory world the
hosts classified are those the world lists for the pool when the pass begins. -/
namespace DesktopPool.Reconcile

open Pass

variable {τ : Type} {svc : Services (StateM τ)}

/-- What a resume stage that ends well did, from progress `p` over `queue` against the target
`T`: it tried the hosts of `tried` in the order of the queue, each once, waking those marked
`true`, and left `rest` untried; it tried each host while fewer than `T` were up, and stopped
at the end of the queue or once `T` were up. -/
structure Resumed (T : Int) (p : Progress) (queue : List SessionHost)
    (tried : List (SessionHost × Bool)) (p' : Progress) (rest : List SessionHost) : Prop where
  split : queue = tried.map Prod.fst ++ rest
  up : p'.up.length = p.up.length + (tried.filter (·.2)).length
  resumed : p'.resumed = p.resumed ++ (tried.filter (·.2)).map (·.1.name)
  failed : p'.failedResumes = p.failedResumes ++ (tried.filter fun a => !a.2).map (·.1.name)
  created : p'.created = p.created
  failedCreations : p'.failedCreations = p.failedCreations
  short : ∀ j < tried.length, p.up.length + ((tried.take j).filter (·.2)).length < T
  stopped : rest = [] ∨ T ≤ p'.up.length

namespace Resumed

variable {T : Int} {p p' : Progress} {queue rest : List SessionHost}
  {tried : List (SessionHost × Bool)} {h : SessionHost}

theorem stop (done : queue = [] ∨ T ≤ p.up.length) : Resumed T p queue [] p queue where
  split := rfl
  up := rfl
  resumed := by simp
  failed := by simp
  created := rfl
  failedCreations := rfl
  short := fun j below => absurd below (Nat.not_lt_zero j)
  stopped := done

theorem woken {ready : SessionHost} (short : p.up.length < T)
    (next : Resumed T { p with up := p.up ++ [ready], resumed := p.resumed ++ [h.name] } queue
      tried p' rest) :
    Resumed T p (h :: queue) ((h, true) :: tried) p' rest where
  split := by rw [next.split]; rfl
  up := by
    rw [next.up]
    simp
    omega
  resumed := by simp [next.resumed]
  failed := by simp [next.failed]
  created := next.created
  failedCreations := next.failedCreations
  short := by
    intro j below
    cases j with
    | zero => simpa using short
    | succ i =>
      have before := next.short i (by simpa using below)
      simp at before ⊢
      omega
  stopped := next.stopped

theorem unwoken (short : p.up.length < T)
    (next : Resumed T { p with failedResumes := p.failedResumes ++ [h.name] } queue tried p' rest) :
    Resumed T p (h :: queue) ((h, false) :: tried) p' rest where
  split := by rw [next.split]; rfl
  up := by simpa using next.up
  resumed := by simpa using next.resumed
  failed := by simp [next.failed]
  created := next.created
  failedCreations := next.failedCreations
  short := by
    intro j below
    cases j with
    | zero => simpa using short
    | succ i =>
      have before := next.short i (by simpa using below)
      simpa using before
  stopped := next.stopped

theorem idle (run : Resumed T p queue tried p' rest) (covered : T ≤ p.up.length) : tried = [] := by
  cases tried with
  | nil => rfl
  | cons first others =>
    have before := run.short 0 (by simp)
    simp at before
    omega

/-- A resume stage that started short and left hosts in the queue stopped on reaching its
target, and the host it tried last woke. -/
theorem reached (below : p.up.length < T) (run : Resumed T p queue tried p' rest)
    (left : rest ≠ []) : p'.up.length = T ∧ ∃ h, tried.getLast? = some (h, true) := by
  have enough : T ≤ p'.up.length := run.stopped.resolve_left left
  have up := run.up
  rcases List.eq_nil_or_concat tried with none | ⟨init, last, split⟩
  · rw [none] at up
    simp at up
    omega
  rw [List.concat_eq_append] at split
  subst split
  -- before the last try fewer than `T` hosts were up
  have before := run.short init.length (by simp)
  rw [List.take_left' rfl] at before
  rw [List.filter_append, List.length_append] at up
  obtain ⟨h, woke⟩ := last
  cases woke with
  | false =>
    simp at up
    omega
  | true =>
    simp at up
    exact ⟨by omega, h, by simp⟩

end Resumed

theorem exec_short (T : Int) (p : Progress) (b : Books) (t : τ) :
    exec (short (.int T) p : Pass (StateM τ) Bool) b t = ⟨.ok (decide (p.up.length < T)), b, t⟩ := by
  simp [short]

theorem resume_resumes (s : Settings) (pool : Value) (T : Int) (queue : List SessionHost)
    (p p' : Progress) (rest : List SessionHost) (b : Books) (t : τ)
    (returned : (exec (resume svc s pool (.int T) queue p) b t).outcome = .ok (p', rest)) :
    ∃ tried, Resumed T p queue tried p' rest := by
  induction queue generalizing p b t with
  | nil =>
    unfold resume at returned
    cases returned
    exact ⟨[], Resumed.stop (.inl rfl)⟩
  | cons h queue later =>
    unfold resume at returned
    rw [exec_bind, exec_short] at returned
    dsimp only at returned
    by_cases short : (p.up.length : Int) < T
    · simp only [short, decide_true, Bool.not_true, Bool.false_eq_true, if_false] at returned
      obtain ⟨_, b', t', -, rest'⟩ := exec_bind_eq_ok returned
      rw [rest', exec_bind, exec_attempt] at returned
      dsimp only at returned
      split at returned
      · obtain ⟨tried, next⟩ := later _ _ _ returned
        exact ⟨(h, true) :: tried, Resumed.woken short next⟩
      · obtain ⟨tried, next⟩ := later _ _ _ returned
        exact ⟨(h, false) :: tried, Resumed.unwoken short next⟩
    · simp only [short, decide_false, Bool.not_false, if_true] at returned
      cases returned
      exact ⟨[], Resumed.stop (.inr (Int.not_lt.mp short))⟩

/-- A creation stage that ends well made all its attempts: the hosts it made are up and created
by name, in order, and each other attempt is counted as failed. -/
theorem createHosts_creates (s : Settings) (pool : Value) (count : Nat) (p p' : Progress)
    (b : Books) (t : τ) (returned : (exec (createHosts svc s pool count p) b t).outcome = .ok p') :
    ∃ made : List SessionHost, p'.up = p.up ++ made ∧ p'.created = p.created ++ made.map (·.name) ∧
      made.length + p'.failedCreations = p.failedCreations + count ∧
      p'.resumed = p.resumed ∧ p'.failedResumes = p.failedResumes := by
  induction count generalizing p b t with
  | zero =>
    unfold createHosts at returned
    cases returned
    exact ⟨[], by simp, by simp, by simp, rfl, rfl⟩
  | succ count later =>
    unfold createHosts at returned
    obtain ⟨_, b', t', -, rest⟩ := exec_bind_eq_ok returned
    rw [rest, exec_bind, exec_attempt] at returned
    dsimp only at returned
    split at returned
    · -- a host made: it is up and created
      next host _ =>
      obtain ⟨made, up, created, counted, resumed, failed⟩ := later _ _ _ returned
      refine ⟨host :: made, by simp [up], by simp [created], ?_, resumed, failed⟩
      simp at counted ⊢
      omega
    · -- a creation fault: the attempt is counted as failed
      split at returned
      · obtain ⟨made, up, created, counted, resumed, failed⟩ := later _ _ _ returned
        refine ⟨made, by simpa using up, by simpa using created, ?_, resumed, failed⟩
        simp at counted
        omega
      · cases returned

theorem attemptsFor_int (T : Int) (up : Nat) : attemptsFor (.int T) up = .ok (T - up).toNat := by
  unfold attemptsFor
  simp only [Value.arith_int, ArithOp.onInts, Outcome.ok_bind, Value.relate_int, Relation.holds_le]
  by_cases covered : T - up ≤ 0
  · simp only [covered, decide_true, if_true]
    congr 1
    omega
  · simp only [covered, decide_false, Bool.false_eq_true, if_false]
    congr 1
    omega

theorem purge_hostName (h : SessionHost) :
    Answers (fun r => r.hostName = h.name) (Lifecycle.purge svc h) := by
  unfold Lifecycle.purge
  dsimp only
  repeat' first
    | exact Answers.pure rfl
    | refine Answers.bind fun _ => ?_
    | split

theorem purgeAll_names (hosts : List SessionHost) (results : List PurgeResult) (b : Books) (t : τ)
    (returned : (exec (purgeAll svc hosts) b t).outcome = .ok results) :
    results.map (·.hostName) = hosts.map (·.name) := by
  unfold purgeAll at returned
  obtain ⟨outs, fanned, named⟩ :=
    exec_fanOut_lift (fun r : PurgeResult => r.hostName) (fun h : SessionHost => h.name)
      (fun h => (purge_hostName h : Answers _ (Lifecycle.purge svc h))) hosts b t
  rw [exec_bind] at returned
  rcases ran : exec (fanOut (fun h => ((Lifecycle.purge svc h : StateM τ PurgeResult) :
      Pass (StateM τ) PurgeResult)) hosts) b t
    with ⟨_ | outs', b', t'⟩
  · rw [ran] at fanned
    cases fanned
  · rw [ran] at fanned returned
    cases fanned
    cases returned
    exact named

theorem disposeSurplus_disposes (s : Settings) (surplus : List SessionHost)
    (purged : List PurgeResult) (kept : List Value) (b : Books) (t : τ)
    (returned : (exec (disposeSurplus svc s surplus) b t).outcome = .ok (purged, kept)) :
    if s.scaling.deleteSurplus.truthy then
      purged.map (·.hostName) = surplus.map (·.name) ∧ kept = []
    else kept = surplus.map (·.name) ∧ purged = [] := by
  unfold disposeSurplus at returned
  split at returned
  · next empty =>
    cases returned
    rw [List.isEmpty_iff.mp empty]
    split <;> simp
  · split at returned
    · next deleting =>
      obtain ⟨results, b', t', ran, rest⟩ := exec_bind_eq_ok returned
      rw [rest] at returned
      cases returned
      rw [if_pos deleting]
      exact ⟨purgeAll_names surplus purged b t (by rw [ran]), rfl⟩
    · next keeping =>
      cases returned
      rw [if_neg keeping]
      exact ⟨rfl, rfl⟩

/-- The accounts of a pass that ended with `r`, against the classification `c` of the hosts it
found and the whole-number target `T`. The resumable hosts are the ones `tried`, each marked
with whether it woke, then the ones `left`. Those woken and those that failed to wake are named
in the order tried; each was tried while fewer than `T` hosts were up, so none when `T` were
up from the start, and the trying ended with the queue or with a host whose waking made `T`.
The hosts left are purged or kept powered off, as the settings say. Every creation attempt
that closes the gap to `T` is counted once, and the hosts up are those found up, woken and
made. -/
structure Accounted (s : Settings) (c : Classification) (T : Int)
    (tried : List (SessionHost × Bool)) (left : List SessionHost) (r : ReconcileResult) : Prop where
  target : r.target = .int T
  split : c.resumable = tried.map Prod.fst ++ left
  resumed : r.resumed = (tried.filter (·.2)).map (·.1.name)
  failedResumes : r.failedResumes = (tried.filter fun a => !a.2).map (·.1.name)
  short : ∀ j < tried.length, c.up.length + ((tried.take j).filter (·.2)).length < T
  idle : T ≤ c.up.length → tried = []
  stopped : c.up.length < T →
    left = [] ∨ c.up.length + r.resumed.length = T ∧ ∃ h, tried.getLast? = some (h, true)
  surplus : if s.scaling.deleteSurplus.truthy then
      r.surplusPurged.map (·.hostName) = left.map (·.name) ∧ r.keptPoweredOff = []
    else r.keptPoweredOff = left.map (·.name) ∧ r.surplusPurged = []
  creations : r.created.length + r.failedCreations = (T - c.up.length - r.resumed.length).toNat
  upCount : r.upCount = c.up.length + r.resumed.length + r.created.length

section Drawing

variable {μ : τ → Nat} (counter : DrawCounter μ svc)
include counter

theorem create_draws (s : Settings) (pool : Value) (b : Books) (t : τ) :
    μ (exec (Lifecycle.create svc s pool) b t).state = μ t + 1 := by
  unfold Lifecycle.create
  rw [exec_bind, exec_lift]
  dsimp only
  rw [build_keeps counter.create counter.registrationToken counter.runScript counter.waitReady s
    pool _ b (svc.fresh.run t).2, counter.fresh]

theorem createHosts_draws (s : Settings) (pool : Value) (count : Nat) (p p' : Progress)
    (b : Books) (t : τ) (returned : (exec (createHosts svc s pool count p) b t).outcome = .ok p') :
    μ (exec (createHosts svc s pool count p) b t).state = μ t + count := by
  induction count generalizing p b t with
  | zero =>
    unfold createHosts at returned ⊢
    rfl
  | succ count later =>
    unfold createHosts at returned ⊢
    obtain ⟨_, b', t', checked, rest⟩ := exec_bind_eq_ok returned
    have kept : μ t' = μ t := by
      have := checkpoint_keeps counter.cancelled pool b t
      rw [checked] at this
      exact this
    rw [rest] at returned ⊢
    rw [exec_bind, exec_attempt] at returned ⊢
    dsimp only at returned ⊢
    have drawn := create_draws counter s pool b' t'
    split at returned
    · rw [later _ _ _ returned, drawn, kept]
      omega
    · split at returned
      · rw [later _ _ _ returned, drawn, kept]
        omega
      · cases returned

theorem converge_accounts (s : Settings) (pool : Value) (v : Survey) (T : Int)
    (target : v.plan.target = .int T) (b : Books) (t : τ) (r : ReconcileResult)
    (returned : (exec (converge svc s pool v) b t).outcome = .ok r) :
    r.reservations = v.reservations.length ∧ (∃ tried left, Accounted s v.classes T tried left r) ∧
      μ (exec (converge svc s pool v) b t).state = μ t + (r.created.length + r.failedCreations) := by
  have checked := checkpoint_keeps counter.cancelled pool
  unfold converge at returned ⊢
  rw [target] at returned ⊢
  obtain ⟨stale, b1, t1, purged, rest⟩ := exec_bind_eq_ok returned
  rw [rest] at returned ⊢
  clear rest
  obtain ⟨_, b2, t2, checked1, rest⟩ := exec_bind_eq_ok returned
  rw [rest] at returned ⊢
  clear rest
  obtain ⟨⟨p1, left⟩, b3, t3, resumed, rest⟩ := exec_bind_eq_ok returned
  rw [rest] at returned ⊢
  clear rest
  dsimp only at returned ⊢
  obtain ⟨_, b4, t4, checked2, rest⟩ := exec_bind_eq_ok returned
  rw [rest] at returned ⊢
  clear rest
  obtain ⟨count, b5, t5, counted, rest⟩ := exec_bind_eq_ok returned
  rw [rest] at returned ⊢
  clear rest
  obtain ⟨p2, b6, t6, created, rest⟩ := exec_bind_eq_ok returned
  rw [rest] at returned ⊢
  clear rest
  obtain ⟨_, b7, t7, checked3, rest⟩ := exec_bind_eq_ok returned
  rw [rest] at returned ⊢
  clear rest
  obtain ⟨⟨purgedSurplus, kept⟩, b8, t8, disposed, rest⟩ := exec_bind_eq_ok returned
  rw [rest] at returned ⊢
  clear rest
  dsimp only at returned ⊢
  obtain ⟨orphans, b9, t9, swept, rest⟩ := exec_bind_eq_ok returned
  rw [rest] at returned ⊢
  clear rest
  cases returned
  have draws1 : μ t1 = μ t := Keeps.ran (purgeAll_keeps counter.deleteHost counter.delete _) purged
  have draws2 : μ t2 = μ t1 := Keeps.ran checked checked1
  have draws3 : μ t3 = μ t2 :=
    Keeps.ran (resume_keeps counter.cancelled counter.start counter.waitReady s pool _ _ _) resumed
  have draws4 : μ t4 = μ t3 := Keeps.ran checked checked2
  simp only [exec_check, attemptsFor_int, Ending.mk.injEq, Except.ok.injEq] at counted
  obtain ⟨rfl, rfl, rfl⟩ := counted
  have draws6 : μ t6 = μ t4 + (T - p1.up.length).toNat := by
    have := createHosts_draws counter s pool _ p1 p2 b4 t4 (by rw [created])
    rwa [created] at this
  have draws7 : μ t7 = μ t6 := Keeps.ran checked checked3
  have draws8 : μ t8 = μ t7 :=
    Keeps.ran (disposeSurplus_keeps counter.deleteHost counter.delete s _) disposed
  have draws9 : μ t9 = μ t8 :=
    Keeps.ran (sweepOrphans_keeps counter.cancelled counter.listAll counter.delete s pool _) swept
  obtain ⟨tried, resumption⟩ := resume_resumes s pool T _ _ p1 left b2 t2 (by rw [resumed])
  obtain ⟨made, up, createdNames, attempts, sameResumed, sameFailed⟩ :=
    createHosts_creates s pool _ p1 p2 b4 t4 (by rw [created])
  have woken := resumption.up
  have resumedNames := resumption.resumed
  have noneCreated := resumption.created
  have noneFailed := resumption.failedCreations
  dsimp only at woken resumedNames noneCreated noneFailed
  rw [List.nil_append] at resumedNames
  have madeLength : (p1.created ++ made.map (·.name)).length = made.length := by
    rw [noneCreated]
    simp
  refine ⟨rfl, ⟨tried, left, ?_⟩, ?_⟩
  · refine {
      target := rfl
      split := resumption.split
      resumed := by rw [sameResumed, resumedNames]
      failedResumes := by simpa [sameFailed] using resumption.failed
      short := resumption.short
      idle := resumption.idle
      stopped := ?_
      surplus := disposeSurplus_disposes s left purgedSurplus kept b7 t7 (by rw [disposed])
      creations := ?_
      upCount := ?_ }
    · -- short at the start: the queue ran out, or the target was reached by a host that woke
      intro below
      by_cases empty : left = []
      · exact .inl empty
      · obtain ⟨reached, last⟩ := resumption.reached below empty
        refine .inr ⟨?_, last⟩
        dsimp only
        rw [sameResumed, resumedNames, List.length_map]
        omega
    · dsimp only
      rw [createdNames, madeLength, sameResumed, resumedNames, List.length_map, attempts, noneFailed,
        woken]
      omega
    · dsimp only
      rw [up, List.length_append, createdNames, madeLength, sameResumed, resumedNames,
        List.length_map, woken]
  · rw [exec_pure]
    dsimp only
    rw [createdNames, madeLength, attempts, noneFailed, draws9, draws8, draws7, draws6, draws4,
      draws3, draws2, draws1]
    omega

end Drawing

/-- A survey that ends well listed its hosts, and classified them, in states within every frame
its operations keep, and planned for the reservations it rebuilt. -/
theorem survey_returns {F : Frame τ} (within : SurveyWithin F svc) (s : Settings) (pool : Value)
    (store : ∀ b t ids, F.rel (b, t) (b.replaceReservations pool ids, t)) (b : Books) (t : τ)
    (v : Survey) (returned : (exec (survey svc s pool) b t).outcome = .ok v) :
    s.scaling.plan (.int v.reservations.length) (.int v.classes.up.length) = .ok v.plan ∧
      (∃ b' t', F.rel (b, t) (b', t') ∧ ((svc.directory.listHosts pool).run t').1 = .ok v.hosts) ∧
      ∃ b' t', F.rel (b, t) (b', t') ∧ ((classify svc.compute v.hosts).run t').1 = v.classes := by
  have checked := checkpoint_keeps within.cancelled pool
  unfold survey assess at returned
  obtain ⟨_, b1, t1, checked1, rest⟩ := exec_bind_eq_ok returned
  rw [rest] at returned
  clear rest
  obtain ⟨reservations, b2, t2, rebuilt, rest⟩ := exec_bind_eq_ok returned
  rw [rest] at returned
  clear rest
  obtain ⟨_, b3, t3, checked2, rest⟩ := exec_bind_eq_ok returned
  rw [rest] at returned
  clear rest
  obtain ⟨hosts, b4, t4, listed, rest⟩ := exec_bind_eq_ok returned
  rw [rest] at returned
  clear rest
  obtain ⟨_, b5, t5, checked3, rest⟩ := exec_bind_eq_ok returned
  rw [rest] at returned
  clear rest
  obtain ⟨c, b6, t6, classified, rest⟩ := exec_bind_eq_ok returned
  rw [rest] at returned
  clear rest
  obtain ⟨_, b7, t7, checked4, rest⟩ := exec_bind_eq_ok returned
  rw [rest] at returned
  clear rest
  obtain ⟨plan, b8, t8, planned, rest⟩ := exec_bind_eq_ok returned
  rw [rest] at returned
  clear rest
  cases returned
  have upToListing : F.rel (b, t) (b3, t3) :=
    F.trans _ _ _ (Keeps.ran checked checked1)
      (F.trans _ _ _ (Keeps.ran (rebuild_keeps within pool store) rebuilt) (Keeps.ran checked checked2))
  -- the listing's handler raises, so an ending listing is the service's answer
  rw [exec_tryCatch] at listed
  rcases answer : exec (call (svc.directory.listHosts pool)) b3 t3 with ⟨_ | hosts', b', t'⟩
  · rw [answer] at listed
    simp at listed
  rw [answer] at listed
  cases listed
  simp only [exec_call, Ending.mk.injEq] at answer
  obtain ⟨answered, rfl, rfl⟩ := answer
  have upToClassifying : F.rel (b, t) (b5, t5) :=
    F.trans _ _ _ upToListing (F.trans _ _ _ (within.listHosts pool b3 t3) (Keeps.ran checked checked3))
  simp only [exec_lift, Ending.mk.injEq] at classified
  obtain ⟨classes, rfl, -⟩ := classified
  simp only [exec_check, Ending.mk.injEq] at planned
  refine ⟨planned.1, ⟨b3, t3, upToListing, answered⟩, ⟨b5, t5, upToClassifying, ?_⟩⟩
  cases classes
  rfl

theorem stages_returns (s : Settings) (pool : Value) (b : Books) (t : τ) (r : ReconcileResult)
    (returned : (exec (stages svc s pool) b t).outcome = .ok r) :
    ∃ v b1 t1 b2 t2, exec (survey svc s pool) b t = ⟨.ok v, b1, t1⟩ ∧
      exec (checkpoint svc pool) b1 t1 = ⟨.ok (), b2, t2⟩ ∧
      exec (stages svc s pool) b t = exec (converge svc s pool v) b2 t2 := by
  unfold stages at returned ⊢
  obtain ⟨v, b1, t1, surveyed, rest⟩ := exec_bind_eq_ok returned
  rw [rest] at returned ⊢
  obtain ⟨⟨⟩, b2, t2, checked, rest⟩ := exec_bind_eq_ok returned
  exact ⟨v, b1, t1, b2, t2, surveyed, checked, rest⟩

theorem ensureCapacity_returns (s : Settings) (pool : Value) (b : Books) (t : τ)
    (r : ReconcileResult) (returned : (exec (ensureCapacity svc s pool) b t).outcome = .ok r) :
    ∃ b1 t1, exec (checkpoint svc pool) b t = ⟨.ok (), b1, t1⟩ ∧
      (exec (stages svc s pool) { b1 with locked := pool :: b1.locked } t1).outcome = .ok r ∧
      (exec (ensureCapacity svc s pool) b t).state =
        (exec (stages svc s pool) { b1 with locked := pool :: b1.locked } t1).state := by
  unfold ensureCapacity at returned ⊢
  obtain ⟨⟨⟩, b1, t1, checked, rest⟩ := exec_bind_eq_ok returned
  rw [rest] at returned ⊢
  rcases exec_locked s pool (stages svc s pool) b1 t1 with ⟨e, refused⟩ | ⟨-, taken⟩
  · rw [refused] at returned
    cases returned
  · rw [taken] at returned ⊢
    exact ⟨b1, t1, checked, returned, rfl⟩

/-- A pass in the in-memory world that ends well, with whole-number bounds on the hosts,
accounts for the hosts the world listed for the pool when the pass began, as the world
classified them then: the target is the one planned for the reservations found, and the
hosts tried, woken, purged, kept and made are as `Accounted` says. The numbers the pass drew
are its creation attempts, as many as it counts. -/
theorem pass_accounts (env : Env) (watch : Bool) (s : Settings) {lo hi : Int}
    (low : s.scaling.minHosts = .int lo) (high : s.scaling.maxHosts = .int hi) (pool : Value)
    (b : Books) (sc : Scene) (r : ReconcileResult)
    (returned : (exec (ensureCapacity (Scene.services env watch) s pool) b sc).outcome = .ok r) :
    ∃ hosts, ((World.listHosts pool).run sc.world).1 = .ok hosts ∧
      ∃ T tried left, s.scaling.target (.int r.reservations) = .ok (.int T) ∧
        Accounted s ((classify (Scene.services env watch).compute hosts).run sc).1 T tried left r ∧
        (exec (ensureCapacity (Scene.services env watch) s pool) b sc).state.drawn =
          sc.drawn + (r.created.length + r.failedCreations) := by
  have within := Scene.surveyWithin env watch
  obtain ⟨b1, t1, checked, staged, sameState⟩ := ensureCapacity_returns s pool b sc r returned
  obtain ⟨v, b2, t2, b3, t3, surveyed, checked', converged⟩ := stages_returns s pool _ t1 r staged
  rw [converged] at staged sameState
  -- what the world shows the survey is what it showed when the pass began
  have atLock : Scene.surveyed t1 = Scene.surveyed sc :=
    Keeps.ran (checkpoint_keeps within.cancelled pool) checked
  have atEnd : Scene.surveyed t2 = Scene.surveyed t1 :=
    Keeps.ran (survey_keeps within s pool fun _ _ _ => rfl) surveyed
  obtain ⟨planned, ⟨_, tl, listing, listed⟩, ⟨_, tc, classifying, classified⟩⟩ :=
    survey_returns within s pool (fun _ _ _ => rfl) _ t1 v (by rw [surveyed])
  have listedAtLock : Scene.surveyed tl = Scene.surveyed t1 := listing
  have classifiedAtLock : Scene.surveyed tc = Scene.surveyed t1 := classifying
  have listedAtStart : tl.world.seen = sc.world.seen :=
    congrArg Prod.fst (listedAtLock.trans atLock)
  have classifiedAtStart : tc.world.seen = sc.world.seen :=
    congrArg Prod.fst (classifiedAtLock.trans atLock)
  obtain ⟨n, whole⟩ := Scaling.target_int s.scaling low high (Scaling.plan_target planned)
  obtain ⟨reserved, ⟨tried, left, accounted⟩, drawn⟩ :=
    converge_accounts (Scene.drawCounter env watch) s pool v _ whole b3 t3 r staged
  have drawnAtConverge : t3.drawn = sc.drawn := by
    have atCheck : t3.drawn = t2.drawn :=
      Keeps.ran (checkpoint_keeps (Scene.drawCounter env watch).cancelled pool) checked'
    rw [atCheck]
    exact congrArg Prod.snd (atEnd.trans atLock)
  refine ⟨v.hosts, ?_, max lo (min hi n), tried, left, ?_, ?_, ?_⟩
  · rw [← World.listHosts_seen pool listedAtStart]
    exact Scene.listHosts_answer env watch pool tl listed
  · rw [reserved, ← whole]
    exact Scaling.plan_target planned
  · rw [Scene.classify_seen env watch v.hosts classifiedAtStart.symm, classified]
    exact accounted
  · rw [sameState, drawn, drawnAtConverge]

/-- Two passes the accounting speaks of. Wanting three hosts over `wakingScene`, the pass purges
the stale host, wakes one sleeper, fails to wake the other and makes one host. Wanting one host
over `surplusScene`, it purges the stale host, wakes one sleeper and disposes of the other. -/
theorem pass_accounts_waking_and_surplus :
    (∃ r, (exec (ensureCapacity (Scene.services default false) (fixedSettings 3) (.str "HP")) {}
        wakingScene).outcome = .ok r ∧
      r.stalePurged.length = 1 ∧ r.resumed.length = 1 ∧ r.failedResumes.length = 1 ∧
      r.created.length = 1 ∧
      ∃ hosts, ((World.listHosts (.str "HP")).run wakingScene.world).1 = .ok hosts ∧
        ∃ T tried left, (fixedSettings 3).scaling.target (.int r.reservations) = .ok (.int T) ∧
          Accounted (fixedSettings 3)
            ((classify (Scene.services default false).compute hosts).run wakingScene).1 T tried left r ∧
          (exec (ensureCapacity (Scene.services default false) (fixedSettings 3) (.str "HP")) {}
            wakingScene).state.drawn = wakingScene.drawn + (r.created.length + r.failedCreations)) ∧
    (∃ r, (exec (ensureCapacity (Scene.services default false) (fixedSettings 1) (.str "HP")) {}
        surplusScene).outcome = .ok r ∧
      r.stalePurged.length = 1 ∧ r.resumed.length = 1 ∧ r.surplusPurged.length = 1 ∧
      ∃ hosts, ((World.listHosts (.str "HP")).run surplusScene.world).1 = .ok hosts ∧
        ∃ T tried left, (fixedSettings 1).scaling.target (.int r.reservations) = .ok (.int T) ∧
          Accounted (fixedSettings 1)
            ((classify (Scene.services default false).compute hosts).run surplusScene).1 T tried left r ∧
          (exec (ensureCapacity (Scene.services default false) (fixedSettings 1) (.str "HP")) {}
            surplusScene).state.drawn = surplusScene.drawn + (r.created.length + r.failedCreations)) := by
  have accounts := fun (n : Int) sc r returned =>
    pass_accounts default false (fixedSettings n) rfl rfl (.str "HP") {} sc r returned
  -- both runs are closed: the kernel evaluates how they end
  have waking : (exec (ensureCapacity (Scene.services default false) (fixedSettings 3) (.str "HP")) {}
      wakingScene).outcome.toOption.any (fun r => r.stalePurged.length == 1 &&
        r.resumed.length == 1 && r.failedResumes.length == 1 && r.created.length == 1) = true := by
    decide +kernel
  have surplus : (exec (ensureCapacity (Scene.services default false) (fixedSettings 1) (.str "HP"))
      {} surplusScene).outcome.toOption.any (fun r => r.stalePurged.length == 1 &&
        r.resumed.length == 1 && r.surplusPurged.length == 1) = true := by
    decide +kernel
  obtain ⟨r, returned, counts⟩ := Outcome.ok_of_toOption_any waking
  obtain ⟨r', returned', counts'⟩ := Outcome.ok_of_toOption_any surplus
  simp only [Bool.and_eq_true, beq_iff_eq] at counts counts'
  obtain ⟨⟨⟨stale, resumed⟩, failed⟩, created⟩ := counts
  obtain ⟨⟨stale', resumed'⟩, surplusPurged⟩ := counts'
  exact ⟨⟨r, returned, stale, resumed, failed, created, accounts 3 _ r returned⟩,
    ⟨r', returned', stale', resumed', surplusPurged, accounts 1 _ r' returned'⟩⟩

end DesktopPool.Reconcile
