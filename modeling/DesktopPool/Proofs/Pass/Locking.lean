import DesktopPool.Proofs.Pass.Phases

/-! Pool locks over a pass. Taking the lock of a pool either fails, leaving the books as they
were, or succeeds on a pool whose lock nobody holds and records it as held. The stages of a
pass take and give back no lock, so the lock a pass takes is still the latest one when it gives
it back, however the stages end: a pass leaves the held locks exactly as it found them. -/
namespace DesktopPool.Reconcile

open Pass

variable {τ : Type}

def lockFrame : Frame τ where
  rel := fun p q => q.1.locked = p.1.locked
  refl := fun _ => rfl
  trans := fun _ _ _ first second => second.trans first

theorem lockPool_cases (s : Settings) (pool : Value) (b : Books) (t : τ) :
    (∃ e, exec (lockPool s pool : Pass (StateM τ) Unit) b t = ⟨.error e, b, t⟩) ∨
    (b.isLocked pool = false ∧
      exec (lockPool s pool : Pass (StateM τ) Unit) b t =
        ⟨.ok (), { b with locked := pool :: b.locked }, t⟩) := by
  rcases keyed : pool.asKey with f | k
  · exact .inl ⟨f, by simp [lockPool, Locks.isLocked, exec_bind, keyed]⟩
  rcases waits : Locks.checkWait s.timeouts.lock with f | u
  · cases held : b.isLocked pool
    · exact .inl ⟨f, by simp [lockPool, Locks.isLocked, Locks.acquire, exec_bind, keyed, held, waits]⟩
    · exact .inl ⟨f, by simp [lockPool, Locks.isLocked, exec_bind, keyed, held, waits]⟩
  cases held : b.isLocked pool
  · exact .inr ⟨rfl, by simp [lockPool, Locks.isLocked, Locks.acquire, exec_bind, keyed, held, waits]⟩
  · -- a held lock is a timeout, once the wait is known to be one a lock could wait for
    rcases shown : wholeSeconds s.timeouts.lock with f | text
    · exact .inl ⟨f, by simp [lockPool, Locks.isLocked, exec_bind, keyed, held, waits, shown]⟩
    · refine .inl ⟨.make .lockTimeout
        s!"Timed out after {text}s waiting for capacity lock of pool {pool.text}", ?_⟩
      simp [lockPool, Locks.isLocked, exec_bind, keyed, held, waits, shown]

@[simp] theorem exec_giveBack (pool : Value) (b : Books) (t : τ) :
    exec (Locks.giveBack pool : Pass (StateM τ) Unit) b t =
      ⟨.ok (), { b with locked := b.locked.eraseP fun p => !pool.same pool || p.same pool }, t⟩ :=
  rfl

theorem giveBack_latest (pool : Value) (held : List Value) :
    (pool :: held).eraseP (fun p => !pool.same pool || p.same pool) = held := by
  apply List.eraseP_cons_of_pos
  cases pool.same pool <;> rfl

/-- A locked step either fails to take the lock, leaving the books, or runs its body with the
lock recorded as held and gives it back however the body ends. -/
theorem exec_locked {α : Type} (s : Settings) (pool : Value) (body : Pass (StateM τ) α)
    (b : Books) (t : τ) :
    (∃ e, exec (locked s pool body) b t = ⟨.error e, b, t⟩) ∨
    (b.isLocked pool = false ∧
      exec (locked s pool body) b t =
        let r := exec body { b with locked := pool :: b.locked } t
        ⟨r.outcome,
          { r.books with locked := r.books.locked.eraseP fun p => !pool.same pool || p.same pool },
          r.state⟩) := by
  unfold locked
  rcases lockPool_cases s pool b t with ⟨e, refused⟩ | ⟨free, taken⟩
  · exact .inl ⟨e, by rw [exec_bind, refused]⟩
  · refine .inr ⟨free, ?_⟩
    rw [exec_bind, taken]
    simp only [exec_bind, exec_attempt, exec_giveBack, exec_check]

theorem lockPool_free (s : Settings) {pool : Value} (hashable : pool.isHashable = true)
    (waits : Locks.checkWait s.timeouts.lock = .ok ()) {b : Books} (free : b.isLocked pool = false)
    (t : τ) :
    exec (lockPool s pool : Pass (StateM τ) Unit) b t =
      ⟨.ok (), { b with locked := pool :: b.locked }, t⟩ := by
  have keyed : pool.asKey = .ok pool := by rw [Value.asKey, if_pos hashable]
  simp [lockPool, Locks.isLocked, Locks.acquire, exec_bind, keyed, free, waits]

theorem exec_locked_free {α : Type} (s : Settings) {pool : Value} (hashable : pool.isHashable = true)
    (waits : Locks.checkWait s.timeouts.lock = .ok ()) (body : Pass (StateM τ) α) {b : Books}
    (free : b.isLocked pool = false) (t : τ) :
    exec (locked s pool body) b t =
      let r := exec body { b with locked := pool :: b.locked } t
      ⟨r.outcome,
        { r.books with locked := r.books.locked.eraseP fun p => !pool.same pool || p.same pool },
        r.state⟩ := by
  unfold locked
  rw [exec_bind, lockPool_free s hashable waits free]
  simp only [exec_bind, exec_attempt, exec_giveBack, exec_check]

theorem locked_keeps {α : Type} (s : Settings) (pool : Value) {body : Pass (StateM τ) α}
    (keeps : Keeps lockFrame body) : Keeps lockFrame (locked s pool body) := by
  intro b t
  rcases exec_locked s pool body b t with ⟨e, refused⟩ | ⟨-, taken⟩
  · rw [refused]
    exact lockFrame.refl _
  · rw [taken]
    have held : (exec body { b with locked := pool :: b.locked } t).books.locked =
        pool :: b.locked := keeps _ t
    show List.eraseP _ _ = b.locked
    rw [held, giveBack_latest]

/-- A frame blind to the books holds over a locked step whose body keeps it. -/
theorem locked_keeps_blind {F : Frame τ} {α : Type}
    (blind : ∀ b₁ b₂ b₃ b₄ t t', F.rel (b₁, t) (b₂, t') → F.rel (b₃, t) (b₄, t'))
    (s : Settings) (pool : Value) {body : Pass (StateM τ) α} (keeps : Keeps F body) :
    Keeps F (locked s pool body) := by
  intro b t
  rcases exec_locked s pool body b t with ⟨e, refused⟩ | ⟨-, taken⟩
  · rw [refused]
    exact F.refl _
  · rw [taken]
    exact blind _ _ _ _ _ _ (keeps _ t)

variable (svc : Services (StateM τ))

theorem surveyWithin_locks : SurveyWithin lockFrame svc where
  cancelled := fun _ _ => rfl
  listSlots := fun _ _ _ => rfl
  listAll := fun _ _ _ => rfl
  assignments := fun _ _ _ => rfl
  deleteSlot := fun _ _ _ => rfl
  listHosts := fun _ _ _ => rfl
  get := fun _ _ _ _ => rfl

theorem convergeWithin_locks : ConvergeWithin lockFrame svc where
  cancelled := fun _ _ => rfl
  deleteHost := fun _ _ _ => rfl
  delete := fun _ _ _ => rfl
  start := fun _ _ _ => rfl
  waitReady := fun _ _ _ _ _ => rfl
  fresh := fun _ _ => rfl
  create := fun _ _ _ => rfl
  registrationToken := fun _ _ _ => rfl
  runScript := fun _ _ _ _ _ _ => rfl
  listAll := fun _ _ _ => rfl

theorem store_keeps_locks (pool : Value) (b : Books) (t : τ) (ids : List Value) :
    lockFrame.rel (b, t) (b.replaceReservations pool ids, t) :=
  rfl

theorem ensureCapacity_keeps_locks (s : Settings) (pool : Value) :
    Keeps lockFrame (ensureCapacity svc s pool) :=
  Keeps.bind (checkpoint_keeps (surveyWithin_locks svc).cancelled pool) fun _ =>
    locked_keeps s pool (stages_keeps (surveyWithin_locks svc) (convergeWithin_locks svc) s pool
      (store_keeps_locks pool))

/-- A pass stays within every frame blind to the books that the operations of its stages stay
within. -/
theorem ensureCapacity_keeps_blind {F : Frame τ} (surveyed : SurveyWithin F svc)
    (converging : ConvergeWithin F svc)
    (blind : ∀ b₁ b₂ b₃ b₄ t t', F.rel (b₁, t) (b₂, t') → F.rel (b₃, t) (b₄, t'))
    (s : Settings) (pool : Value) : Keeps F (ensureCapacity svc s pool) :=
  Keeps.bind (checkpoint_keeps surveyed.cancelled pool) fun _ =>
    locked_keeps_blind blind s pool (stages_keeps surveyed converging s pool
      fun b t _ => blind _ _ _ _ _ _ (F.refl (b, t)))

theorem rebuildReservations_keeps_locks (s : Settings) (pool : Value) :
    Keeps lockFrame (rebuildReservations svc s pool) :=
  locked_keeps s pool (rebuild_keeps (surveyWithin_locks svc) pool (store_keeps_locks pool))

end DesktopPool.Reconcile
