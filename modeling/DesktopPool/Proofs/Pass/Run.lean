import DesktopPool.Pass.Reconcile

/-! Running a pass against services that keep their state in a state monad, as the in-memory
world does. `Pass.exec x b t` is where the pass ends from books `b` and service state `t`: its
outcome, the books, and the service state. A fault keeps the books and the service state as they
were when it was raised, so every equation below holds whichever way the pass ends.

A frame is a relation between where a step starts and where it ends that steps compose by (it
is reflexive and transitive); `Keeps F x` says that `x` stays within frame `F` from any start.
Frames are closed under binds, branches, handlers and fan-outs, so a frame of a whole pass
follows from the frames of the service calls it makes. -/
namespace DesktopPool

/-! Runs of state operations, one step at a time. -/

namespace StateM

variable {σ α β : Type}

theorem run_bind (x : StateM σ α) (f : α → StateM σ β) (t : σ) :
    (x >>= f).run t = (f (x.run t).1).run (x.run t).2 := rfl

theorem run_get (t : σ) : (get : StateM σ σ).run t = (t, t) := rfl

theorem run_set (t t' : σ) : (set t' : StateM σ PUnit).run t = (⟨⟩, t') := rfl

theorem run_pure (a : α) (t : σ) : (pure a : StateM σ α).run t = (a, t) := rfl

end StateM

end DesktopPool

namespace DesktopPool.Pass

variable {τ α β : Type}

/-- How a pass ends: its outcome, the books and the state of the services. -/
structure Ending (τ α : Type) where
  outcome : Outcome α
  books : Books
  state : τ

def exec (x : Pass (StateM τ) α) (b : Books) (t : τ) : Ending τ α :=
  let ((o, b), t) := (x.run.run b).run t
  ⟨o, b, t⟩

@[simp] theorem exec_pure (a : α) (b : Books) (t : τ) :
    exec (pure a : Pass (StateM τ) α) b t = ⟨.ok a, b, t⟩ := rfl

theorem exec_bind (x : Pass (StateM τ) α) (f : α → Pass (StateM τ) β) (b : Books) (t : τ) :
    exec (x >>= f) b t =
      match exec x b t with
      | ⟨.ok a, b, t⟩ => exec (f a) b t
      | ⟨.error e, b, t⟩ => ⟨.error e, b, t⟩ := by
  simp only [exec, ExceptT.run_bind, StateT.run_bind]
  rcases (x.run.run b).run t with ⟨⟨_ | a, b'⟩, t'⟩ <;> rfl

theorem exec_bind_ok {x : Pass (StateM τ) α} {f : α → Pass (StateM τ) β} {b b' : Books}
    {t t' : τ} {a : α} (step : exec x b t = ⟨.ok a, b', t'⟩) :
    exec (x >>= f) b t = exec (f a) b' t' := by
  rw [exec_bind, step]

theorem exec_bind_error {x : Pass (StateM τ) α} {f : α → Pass (StateM τ) β} {b b' : Books}
    {t t' : τ} {e : Fault} (step : exec x b t = ⟨.error e, b', t'⟩) :
    exec (x >>= f) b t = ⟨.error e, b', t'⟩ := by
  rw [exec_bind, step]

theorem exec_bind_eq_ok {x : Pass (StateM τ) α} {f : α → Pass (StateM τ) β} {b : Books} {t : τ}
    {c : β} (ended : (exec (x >>= f) b t).outcome = .ok c) :
    ∃ a b' t', exec x b t = ⟨.ok a, b', t'⟩ ∧ exec (x >>= f) b t = exec (f a) b' t' := by
  rw [exec_bind] at ended
  rcases hx : exec x b t with ⟨e | a, b', t'⟩
  · rw [hx] at ended
    cases ended
  · exact ⟨a, b', t', rfl, exec_bind_ok hx⟩

@[simp] theorem exec_call (x : StateM τ (Outcome α)) (b : Books) (t : τ) :
    exec (call x) b t = ⟨(x.run t).1, b, (x.run t).2⟩ := rfl

@[simp] theorem exec_lift (x : StateM τ α) (b : Books) (t : τ) :
    exec (x : Pass (StateM τ) α) b t = ⟨.ok (x.run t).1, b, (x.run t).2⟩ := rfl

@[simp] theorem exec_check (o : Outcome α) (b : Books) (t : τ) :
    exec (check o : Pass (StateM τ) α) b t = ⟨o, b, t⟩ := rfl

@[simp] theorem exec_raise (e : Fault) (b : Books) (t : τ) :
    exec (raise e : Pass (StateM τ) α) b t = ⟨.error e, b, t⟩ := rfl

@[simp] theorem exec_throw (e : Fault) (b : Books) (t : τ) :
    exec (throw e : Pass (StateM τ) α) b t = ⟨.error e, b, t⟩ := rfl

@[simp] theorem exec_attempt (x : Pass (StateM τ) α) (b : Books) (t : τ) :
    exec (attempt x) b t = ⟨.ok (exec x b t).outcome, (exec x b t).books, (exec x b t).state⟩ :=
  rfl

theorem exec_tryCatch (x : Pass (StateM τ) α) (h : Fault → Pass (StateM τ) α) (b : Books)
    (t : τ) :
    exec (tryCatch x h) b t =
      match exec x b t with
      | ⟨.ok a, b, t⟩ => ⟨.ok a, b, t⟩
      | ⟨.error e, b, t⟩ => exec (h e) b t := by
  show exec (ExceptT.tryCatch x h) b t = _
  simp only [exec, ExceptT.tryCatch, ExceptT.run_mk, StateT.run_bind]
  generalize hx : (x.run.run b).run t = r
  change StateT.run (StateT.run x b) t = r at hx
  rw [hx]
  rcases r with ⟨⟨_ | a, b'⟩, t'⟩ <;> rfl

@[simp] theorem exec_get (b : Books) (t : τ) :
    exec (get : Pass (StateM τ) Books) b t = ⟨.ok b, b, t⟩ := rfl

@[simp] theorem exec_set (b' b : Books) (t : τ) :
    exec (set b' : Pass (StateM τ) PUnit) b t = ⟨.ok ⟨⟩, b', t⟩ := rfl

@[simp] theorem exec_modify (f : Books → Books) (b : Books) (t : τ) :
    exec (modify f : Pass (StateM τ) PUnit) b t = ⟨.ok ⟨⟩, f b, t⟩ := rfl

/-! Fanning out. -/

section Lawful

variable {m : Type → Type} [Monad m]

@[simp] theorem fanOut_nil (f : α → Pass m β) : fanOut f [] = pure [] := rfl

theorem fanOut_cons [LawfulMonad m] (f : α → Pass m β) (x : α) (xs : List α) :
    fanOut f (x :: xs) = (do
      let o ← attempt (f x)
      let rest ← fanOut f xs
      pure ((x, o) :: rest)) := by
  simp [fanOut, List.mapM_cons]

end Lawful

/-- A fan-out never fails: it ends with one outcome for each item, in the order of the items. -/
theorem exec_fanOut (f : α → Pass (StateM τ) β) (xs : List α) (b : Books) (t : τ) :
    ∃ outcomes, (exec (fanOut f xs) b t).outcome = .ok outcomes ∧
      outcomes.map Prod.fst = xs := by
  induction xs generalizing b t with
  | nil => exact ⟨[], rfl, rfl⟩
  | cons x xs ih =>
    rw [fanOut_cons, exec_bind, exec_attempt]
    dsimp only
    rw [exec_bind]
    obtain ⟨rest, ended, firsts⟩ := ih (exec (f x) b t).books (exec (f x) b t).state
    rcases hrest : exec (fanOut f xs) (exec (f x) b t).books (exec (f x) b t).state
      with ⟨_ | rest', b', t'⟩
    · simp [hrest] at ended
    · simp only [hrest] at ended ⊢
      cases ended
      exact ⟨(x, (exec (f x) b t).outcome) :: rest, rfl, by simp [firsts]⟩

/-- In a fan-out whose steps keep an invariant `I` of the services' state, an item whose step
ends with `o` from every state where `I` holds is answered `o`. -/
theorem exec_fanOut_mem {I : τ → Prop} (f : α → Pass (StateM τ) β)
    (keeps : ∀ a b t, I t → I (exec (f a) b t).state) {x : α} {o : Outcome β}
    (answers : ∀ b t, I t → (exec (f x) b t).outcome = o) {xs : List α} (member : x ∈ xs)
    (b : Books) {t : τ} (holds : I t) :
    ∃ outcomes, (exec (fanOut f xs) b t).outcome = .ok outcomes ∧ (x, o) ∈ outcomes := by
  induction xs generalizing b t with
  | nil => cases member
  | cons y ys later =>
    rw [fanOut_cons, exec_bind, exec_attempt]
    dsimp only
    rw [exec_bind]
    obtain ⟨rest, ended, -⟩ := exec_fanOut f ys (exec (f y) b t).books (exec (f y) b t).state
    rcases ran : exec (fanOut f ys) (exec (f y) b t).books (exec (f y) b t).state with
      ⟨_ | rest', b', t'⟩
    · rw [ran] at ended
      cases ended
    rw [ran] at ended
    cases ended
    refine ⟨_, rfl, ?_⟩
    rcases List.mem_cons.mp member with rfl | deeper
    · rw [answers b t holds]
      exact List.mem_cons_self
    · obtain ⟨outs, ended, found⟩ := later deeper (exec (f y) b t).books (keeps y b t holds)
      rw [ran] at ended
      cases ended
      exact List.mem_cons_of_mem _ found

/-! Frames. -/

/-- A relation between the books and service state where a step starts and where it ends,
reflexive and transitive. -/
structure Frame (τ : Type) where
  rel : Books × τ → Books × τ → Prop
  refl : ∀ p, rel p p
  trans : ∀ p q r, rel p q → rel q r → rel p r

/-- The frame in which `μ` of the services' state stays as it was. -/
def Frame.fixing {β : Type} (μ : τ → β) : Frame τ where
  rel p q := μ q.2 = μ p.2
  refl _ := rfl
  trans _ _ _ first second := second.trans first

/-- A service operation stays within frame `F`: it leaves the books alone and moves the state
of the services within `F`. -/
def Frame.Op (F : Frame τ) (x : StateM τ α) : Prop := ∀ b t, F.rel (b, t) (b, (x.run t).2)

namespace Frame.Op

variable {F : Frame τ}

theorem pure (a : α) : F.Op (Pure.pure a : StateM τ α) := fun b t => F.refl (b, t)

theorem bind {x : StateM τ α} {f : α → StateM τ β} (first : F.Op x) (next : ∀ a, F.Op (f a)) :
    F.Op (x >>= f) :=
  fun b t => F.trans _ _ _ (first b t) (next (x.run t).1 b (x.run t).2)

end Frame.Op

/-- Every answer of a service operation satisfies `P`, from any state. -/
def Answers (P : α → Prop) (x : StateM τ α) : Prop := ∀ t, P (x.run t).1

namespace Answers

variable {P : β → Prop}

theorem pure {b : β} (holds : P b) : Answers P (Pure.pure b : StateM τ β) := fun _ => holds

theorem bind {x : StateM τ α} {f : α → StateM τ β} (next : ∀ a, Answers P (f a)) :
    Answers P (x >>= f) :=
  fun t => next (x.run t).1 (x.run t).2

end Answers

theorem exec_fanOut_lift {γ : Type} {g : α → StateM τ β} (key : β → γ) (k : α → γ)
    (answers : ∀ a, Answers (fun v => key v = k a) (g a)) (xs : List α) (b : Books) (t : τ) :
    ∃ outs, (exec (fanOut (fun a => (g a : Pass (StateM τ) β)) xs) b t).outcome = .ok outs ∧
      (outs.filterMap fun o => o.2.toOption).map key = xs.map k := by
  induction xs generalizing b t with
  | nil => exact ⟨[], rfl, rfl⟩
  | cons x xs later =>
    rw [fanOut_cons, exec_bind, exec_attempt, exec_lift]
    dsimp only
    rw [exec_bind]
    obtain ⟨outs, ended, keyed⟩ := later b ((g x).run t).2
    rcases rest : exec (fanOut (fun a => (g a : Pass (StateM τ) β)) xs) b ((g x).run t).2
      with ⟨_ | outs', b', t'⟩
    · rw [rest] at ended
      cases ended
    · rw [rest] at ended
      cases ended
      refine ⟨_, rfl, ?_⟩
      rw [List.filterMap_cons]
      show key ((g x).run t).1 :: _ = _
      rw [answers x t, keyed, List.map_cons]

/-- Whatever way `x` ends, it ends within frame `F` of where it started. -/
def Keeps (F : Frame τ) (x : Pass (StateM τ) α) : Prop :=
  ∀ b t, F.rel (b, t) ((exec x b t).books, (exec x b t).state)

namespace Keeps

variable {F : Frame τ}

theorem still {x : Pass (StateM τ) α}
    (unchanged : ∀ b t, (exec x b t).books = b ∧ (exec x b t).state = t) : Keeps F x := by
  intro b t
  rw [(unchanged b t).1, (unchanged b t).2]
  exact F.refl _

theorem pure (a : α) : Keeps F (pure a : Pass (StateM τ) α) := still fun _ _ => ⟨rfl, rfl⟩

theorem check (o : Outcome α) : Keeps F (Pass.check o : Pass (StateM τ) α) :=
  still fun _ _ => ⟨rfl, rfl⟩

theorem raise (e : Fault) : Keeps F (Pass.raise e : Pass (StateM τ) α) :=
  still fun _ _ => ⟨rfl, rfl⟩

theorem get : Keeps F (get : Pass (StateM τ) Books) := still fun _ _ => ⟨rfl, rfl⟩

theorem bind {x : Pass (StateM τ) α} {f : α → Pass (StateM τ) β} (first : Keeps F x)
    (next : ∀ a, Keeps F (f a)) : Keeps F (x >>= f) := by
  intro b t
  have start := first b t
  rw [exec_bind]
  rcases hx : exec x b t with ⟨_ | a, b', t'⟩
  · simpa [hx] using start
  · rw [hx] at start
    exact F.trans _ _ _ start (next a b' t')

theorem attempt {x : Pass (StateM τ) α} (keeps : Keeps F x) : Keeps F (Pass.attempt x) := by
  intro b t
  simpa using keeps b t

theorem tryCatch {x : Pass (StateM τ) α} {h : Fault → Pass (StateM τ) α} (first : Keeps F x)
    (handler : ∀ e, Keeps F (h e)) : Keeps F (tryCatch x h) := by
  intro b t
  have start := first b t
  rw [exec_tryCatch]
  rcases hx : exec x b t with ⟨e | a, b', t'⟩
  · rw [hx] at start
    exact F.trans _ _ _ start (handler e b' t')
  · simpa [hx] using start

theorem ite {c : Prop} [Decidable c] {x y : Pass (StateM τ) α} (yes : Keeps F x)
    (no : Keeps F y) : Keeps F (if c then x else y) := by
  split
  · exact yes
  · exact no

theorem fanOut {f : α → Pass (StateM τ) β} {xs : List α} (each : ∀ a ∈ xs, Keeps F (f a)) :
    Keeps F (Pass.fanOut f xs) := by
  induction xs with
  | nil => exact pure []
  | cons x xs ih =>
    rw [fanOut_cons]
    exact bind (attempt (each x List.mem_cons_self)) fun _ =>
      bind (ih fun a member => each a (List.mem_cons_of_mem x member)) fun _ => pure _

theorem call {x : StateM τ (Outcome α)} (op : F.Op x) : Keeps F (Pass.call x) :=
  fun b t => op b t

theorem lift {x : StateM τ α} (op : F.Op x) : Keeps F (x : Pass (StateM τ) α) :=
  fun b t => op b t

theorem modify {f : Books → Books} (change : ∀ b t, F.rel (b, t) (f b, t)) :
    Keeps F (modify f : Pass (StateM τ) PUnit) :=
  fun b t => change b t

theorem ran {x : Pass (StateM τ) α} (keeps : Keeps F x) {b b' : Books} {t t' : τ}
    {o : Outcome α} (run : exec x b t = ⟨o, b', t'⟩) : F.rel (b, t) (b', t') := by
  have kept := keeps b t
  rw [run] at kept
  exact kept

end Keeps

/-! Faults. -/

/-- Every fault `x` can end with satisfies `Q`, from any books and state. -/
def Raises (Q : Fault → Prop) (x : Pass (StateM τ) α) : Prop :=
  ∀ b t e, (exec x b t).outcome = .error e → Q e

namespace Raises

variable {Q : Fault → Prop}

theorem mono {Q' : Fault → Prop} {x : Pass (StateM τ) α} (weaker : ∀ e, Q e → Q' e)
    (raises : Raises Q x) : Raises Q' x :=
  fun b t e ended => weaker e (raises b t e ended)

theorem pure (a : α) : Raises Q (pure a : Pass (StateM τ) α) := by
  intro b t e ended
  simp at ended

theorem check {o : Outcome α} (within : ∀ e, o = .error e → Q e) :
    Raises Q (Pass.check o : Pass (StateM τ) α) :=
  fun _ _ e ended => within e ended

theorem raise {e : Fault} (holds : Q e) : Raises Q (Pass.raise e : Pass (StateM τ) α) := by
  intro b t e' ended
  cases ended
  exact holds

theorem bind {x : Pass (StateM τ) α} {f : α → Pass (StateM τ) β} (first : Raises Q x)
    (next : ∀ a, Raises Q (f a)) : Raises Q (x >>= f) := by
  intro b t e ended
  rw [exec_bind] at ended
  rcases hx : exec x b t with ⟨e' | a, b', t'⟩
  · -- the first step's fault is the fault of the whole
    rw [hx] at ended
    cases ended
    exact first b t e (by rw [hx])
  · rw [hx] at ended
    exact next a b' t' e ended

theorem attempt (x : Pass (StateM τ) α) : Raises Q (Pass.attempt x) := by
  intro b t e ended
  simp at ended

theorem tryCatch {x : Pass (StateM τ) α} {h : Fault → Pass (StateM τ) α}
    (handler : ∀ e, Raises Q (h e)) : Raises Q (tryCatch x h) := by
  intro b t e ended
  rw [exec_tryCatch] at ended
  rcases hx : exec x b t with ⟨e' | a, b', t'⟩
  · rw [hx] at ended
    exact handler e' b' t' e ended
  · simp [hx] at ended

theorem ite {c : Prop} [Decidable c] {x y : Pass (StateM τ) α} (yes : Raises Q x)
    (no : Raises Q y) : Raises Q (if c then x else y) := by
  split
  · exact yes
  · exact no

theorem fanOut (f : α → Pass (StateM τ) β) (xs : List α) : Raises Q (Pass.fanOut f xs) := by
  intro b t e ended
  obtain ⟨outcomes, fanned, -⟩ := exec_fanOut f xs b t
  rw [fanned] at ended
  cases ended

theorem lift (x : StateM τ α) : Raises Q (x : Pass (StateM τ) α) := by
  intro b t e ended
  simp at ended

theorem modify (f : Books → Books) : Raises Q (modify f : Pass (StateM τ) PUnit) := by
  intro b t e ended
  simp at ended

theorem get : Raises Q (get : Pass (StateM τ) Books) := by
  intro b t e ended
  simp at ended

theorem bind_returns {x : Pass (StateM τ) α} {f : α → Pass (StateM τ) β} {R : α → Prop}
    (first : Raises Q x) (returns : ∀ b t a, (exec x b t).outcome = .ok a → R a)
    (next : ∀ a, R a → Raises Q (f a)) : Raises Q (x >>= f) := by
  intro b t e ended
  rw [exec_bind] at ended
  rcases hx : exec x b t with ⟨e' | a, b', t'⟩
  · rw [hx] at ended
    cases ended
    exact first b t e (by rw [hx])
  · rw [hx] at ended
    exact next a (returns b t a (by rw [hx])) b' t' e ended

end Raises

/-- Whenever `x` ends with a fault that satisfies `P`, it ends within frame `F` of where it
started, whatever it does on its other ways out. -/
def KeepsOn (P : Fault → Prop) (F : Frame τ) (x : Pass (StateM τ) α) : Prop :=
  ∀ b t e, (exec x b t).outcome = .error e → P e →
    F.rel (b, t) ((exec x b t).books, (exec x b t).state)

namespace KeepsOn

variable {P : Fault → Prop} {F : Frame τ}

theorem of_raises {x : Pass (StateM τ) α} (never : Raises (fun e => ¬P e) x) : KeepsOn P F x :=
  fun b t e ended holds => absurd holds (never b t e ended)

theorem bind_keeps {x : Pass (StateM τ) α} {f : α → Pass (StateM τ) β} (first : Keeps F x)
    (next : ∀ a, KeepsOn P F (f a)) : KeepsOn P F (x >>= f) := by
  intro b t e ended holds
  have start := first b t
  rw [exec_bind] at ended ⊢
  rcases hx : exec x b t with ⟨e' | a, b', t'⟩
  · simpa [hx] using start
  · rw [hx] at ended start
    exact F.trans _ _ _ start (next a b' t' e ended holds)

theorem bind_raises {x : Pass (StateM τ) α} {f : α → Pass (StateM τ) β} (first : KeepsOn P F x)
    (next : ∀ a, Raises (fun e => ¬P e) (f a)) : KeepsOn P F (x >>= f) := by
  intro b t e ended holds
  rw [exec_bind] at ended ⊢
  rcases hx : exec x b t with ⟨e' | a, b', t'⟩
  · rw [hx] at ended
    cases ended
    simpa [hx] using first b t e (by rw [hx]) holds
  · rw [hx] at ended
    exact absurd holds (next a b' t' e ended)

end KeepsOn

end DesktopPool.Pass
