import Mathlib.Logic.Function.Basic
import Mathlib.Data.List.FinRange

/-! Programs that share a state with others and change it one atomic step at a time. A step
changes the state by its effect and goes on as its continuation says of the state the step
started from, so what comes next may depend on what the step saw. Programs form a monad, and an
operation of a state monad is a program of one step.

Several programs run together under a schedule, each entry of which lets one of them take its
next step. When every step has an effect from a family whose members commute in a view of the
state and keep a key of it, and every step goes on in a way the key fixes, every schedule that
finishes all the programs ends with the values, and in the view the state, that running them
one after another gives. -/
namespace DesktopPool

/-- A program over a shared state `σ` that ends with a value of `α`. -/
inductive Steps (σ α : Type) where
  | done (a : α)
  | step (effect : σ → σ) (next : σ → Steps σ α)

namespace Steps

variable {σ α β γ : Type}

def bind : Steps σ α → (α → Steps σ β) → Steps σ β
  | done a, f => f a
  | step effect next, f => step effect fun s => bind (next s) f

instance : Monad (Steps σ) where
  pure := done
  bind := bind

@[simp] theorem pure_eq (a : α) : (pure a : Steps σ α) = done a := rfl

@[simp] theorem done_bind (a : α) (f : α → Steps σ β) : done a >>= f = f a := rfl

@[simp] theorem step_bind (effect : σ → σ) (next : σ → Steps σ α) (f : α → Steps σ β) :
    step effect next >>= f = step effect fun s => next s >>= f := rfl

theorem bind_done (t : Steps σ α) : t >>= done = t := by
  induction t with
  | done a => rfl
  | step effect next later => exact congrArg (step effect) (funext later)

theorem bind_assoc (t : Steps σ α) (f : α → Steps σ β) (g : β → Steps σ γ) :
    t >>= f >>= g = t >>= fun a => f a >>= g := by
  induction t with
  | done a => rfl
  | step effect next later => exact congrArg (step effect) (funext later)

instance : LawfulMonad (Steps σ) :=
  LawfulMonad.mk' (Steps σ) (fun t => bind_done t) (fun _ _ => rfl) bind_assoc

def run : Steps σ α → σ → α × σ
  | done a, s => (a, s)
  | step effect next, s => run (next s) (effect s)

theorem run_bind (t : Steps σ α) (f : α → Steps σ β) (s : σ) :
    (t >>= f).run s = (f (t.run s).1).run (t.run s).2 := by
  induction t generalizing s with
  | done a => rfl
  | step effect next later => exact later s (effect s)

def atomic (x : StateM σ α) : Steps σ α := step (fun s => (x.run s).2) fun s => done (x.run s).1

@[simp] theorem run_atomic (x : StateM σ α) (s : σ) : (atomic x).run s = x.run s := rfl

def applyAll (es : List (σ → σ)) (s : σ) : σ := es.foldl (fun s e => e s) s

@[simp] theorem applyAll_nil (s : σ) : applyAll [] s = s := rfl

theorem applyAll_append (es es' : List (σ → σ)) (s : σ) :
    applyAll (es ++ es') s = applyAll es' (applyAll es s) := List.foldl_append

section Within

variable {κ ν : Type} (E : (σ → σ) → Prop) (K : σ → κ) (k : κ)

/-- `t` runs within the effects `E` at key `k` and ends as `Q` says: every step's effect is in
`E`, and from every state at key `k` a step goes on in one and the same way. -/
inductive Within (Q : α → Prop) : Steps σ α → Prop
  | done {a : α} : Q a → Within Q (done a)
  | step {effect : σ → σ} {next : σ → Steps σ α} : E effect →
      (∀ s s', K s = k → K s' = k → next s = next s') → (∀ s, K s = k → Within Q (next s)) →
      Within Q (step effect next)

/-- `t` has come to `t'` by taking the steps whose effects are `es`, each from a state at key
`k`. -/
inductive Reaches : Steps σ α → List (σ → σ) → Steps σ α → Prop
  | refl (t : Steps σ α) : Reaches t [] t
  | snoc {t : Steps σ α} {es : List (σ → σ)} {effect : σ → σ} {next : σ → Steps σ α} (s : σ) :
      Reaches t es (step effect next) → K s = k → Reaches t (es ++ [effect]) (next s)

/-- Effects that keep the key `K` and commute with each other as `view` sees the state, where
the view after an effect depends on the view before it only. -/
structure Commuting (view : σ → ν) : Prop where
  key : ∀ e, E e → ∀ s, K (e s) = K s
  congr : ∀ e, E e → ∀ s s', view s = view s' → view (e s) = view (e s')
  comm : ∀ e e', E e → E e' → ∀ s, view (e (e' s)) = view (e' (e s))

variable {E K k}

theorem Within.pure {Q : α → Prop} {a : α} (holds : Q a) : Within E K k Q (Pure.pure a) :=
  .done holds

theorem Within.bind {Q : α → Prop} {R : β → Prop} {t : Steps σ α} {f : α → Steps σ β}
    (first : Within E K k Q t) (next : ∀ a, Q a → Within E K k R (f a)) :
    Within E K k R (t >>= f) := by
  induction first with
  | done holds => exact next _ holds
  | step effect same _ later =>
    exact .step effect (fun s s' key key' => by rw [same s s' key key']) later

theorem Within.atomic {Q : α → Prop} {x : StateM σ α} (effect : E fun s => (x.run s).2)
    (answer : ∀ s s', K s = k → K s' = k → (x.run s).1 = (x.run s').1)
    (holds : ∀ s, K s = k → Q (x.run s).1) : Within E K k Q (Steps.atomic x) :=
  .step effect (fun s s' key key' => by rw [answer s s' key key']) fun s key => .done (holds s key)

theorem Within.reaches {Q : α → Prop} {t t' : Steps σ α} {es : List (σ → σ)}
    (within : Within E K k Q t) (reached : Reaches K k t es t') :
    Within E K k Q t' ∧ ∀ e ∈ es, E e := by
  induction reached with
  | refl => exact ⟨within, by simp⟩
  | snoc s _ key later =>
    obtain ⟨stepped, before⟩ := later
    cases stepped with
    | step effect _ rest =>
      refine ⟨rest s key, fun e member => ?_⟩
      rcases List.mem_append.mp member with early | last
      · exact before e early
      · rw [List.mem_singleton.mp last]
        exact effect

theorem applyAll_key {view : σ → ν} (commuting : Commuting E K view) {es : List (σ → σ)}
    (inE : ∀ e ∈ es, E e) (s : σ) : K (applyAll es s) = K s := by
  induction es generalizing s with
  | nil => rfl
  | cons e es later =>
    have rest : ∀ e ∈ es, E e := fun e' member => inE e' (List.mem_cons_of_mem e member)
    calc K (applyAll (e :: es) s) = K (applyAll es (e s)) := rfl
      _ = K (e s) := later rest (e s)
      _ = K s := commuting.key e (inE e List.mem_cons_self) s

theorem Within.run_holds {view : σ → ν} {Q : α → Prop} {t : Steps σ α}
    (within : Within E K k Q t) (commuting : Commuting E K view) {s : σ} (key : K s = k) :
    Q (t.run s).1 ∧ K (t.run s).2 = k := by
  induction within generalizing s with
  | done holds => exact ⟨holds, key⟩
  | step effect _ _ later =>
    exact later s key ((commuting.key _ effect s).trans key)

theorem Reaches.run {view : σ → ν} {Q : α → Prop} {t t' : Steps σ α} {es : List (σ → σ)}
    (reached : Reaches K k t es t') (commuting : Commuting E K view) (within : Within E K k Q t)
    {s : σ} (key : K s = k) : t.run s = t'.run (applyAll es s) := by
  induction reached with
  | refl => rfl
  | @snoc es effect next s' reached' key' later =>
    obtain ⟨stepped, inE⟩ := within.reaches reached'
    have atKey : K (applyAll es s) = k := (applyAll_key commuting inE s).trans key
    cases stepped with
    | step _ same _ =>
      rw [later, applyAll_append]
      exact congrArg (fun u => Steps.run u _) (same _ _ atKey key')

theorem applyAll_congr {view : σ → ν} (commuting : Commuting E K view) {es : List (σ → σ)}
    (inE : ∀ e ∈ es, E e) {s s' : σ} (same : view s = view s') :
    view (applyAll es s) = view (applyAll es s') := by
  induction es generalizing s s' with
  | nil => exact same
  | cons e es later =>
    exact later (fun e' member => inE e' (List.mem_cons_of_mem e member))
      (commuting.congr e (inE e List.mem_cons_self) s s' same)

/-- Commuting effects applied in any order give states with one view. -/
theorem applyAll_perm {view : σ → ν} (commuting : Commuting E K view) {es es' : List (σ → σ)}
    (reordered : es.Perm es') (inE : ∀ e ∈ es, E e) {s s' : σ} (same : view s = view s') :
    view (applyAll es s) = view (applyAll es' s') := by
  induction reordered generalizing s s' with
  | nil => exact same
  | cons e _ later =>
    exact later (fun e' member => inE e' (List.mem_cons_of_mem e member))
      (commuting.congr e (inE e List.mem_cons_self) s s' same)
  | swap e e' es =>
    -- the two effects taken first change places; the rest runs from states of one view
    have first : E e := inE e (by simp)
    have second : E e' := inE e' (by simp)
    have swapped : view (e (e' s)) = view (e' (e s')) := by
      rw [commuting.comm e e' first second s]
      exact commuting.congr e' second _ _ (commuting.congr e first s s' same)
    exact applyAll_congr commuting (fun e'' member => inE e'' (by simp [member])) swapped
  | trans reordered _ first second =>
    exact (first inE same).trans
      (second (fun e member => inE e (reordered.mem_iff.mpr member)) rfl)

end Within

def runAll : List (Steps σ α) → σ → List α × σ
  | [], s => ([], s)
  | t :: ts, s => ((t.run s).1 :: (runAll ts (t.run s).2).1, (runAll ts (t.run s).2).2)

def length : Steps σ α → σ → Nat
  | done _, _ => 0
  | step effect next, s => (next s).length (effect s) + 1

end Steps

structure Threads (n : Nat) (σ α : Type) where
  tasks : Fin n → Steps σ α
  state : σ

namespace Threads

open Steps

variable {n : Nat} {σ α β κ ν : Type}

def advance (i : Fin n) (p : Threads n σ α) : Threads n σ α :=
  match p.tasks i with
  | .done _ => p
  | .step effect next => ⟨Function.update p.tasks i (next p.state), effect p.state⟩

def execute : List (Fin n) → Threads n σ α → Threads n σ α
  | [], p => p
  | i :: schedule, p => execute schedule (p.advance i)

theorem execute_append (first later : List (Fin n)) (p : Threads n σ α) :
    p.execute (first ++ later) = (p.execute first).execute later := by
  induction first generalizing p with
  | nil => rfl
  | cons i first rest => exact rest (p.advance i)

theorem execute_done {p : Threads n σ α} {i : Fin n} {a : α} (finished : p.tasks i = .done a)
    (schedule : List (Fin n)) : (p.execute schedule).tasks i = .done a := by
  induction schedule generalizing p with
  | nil => exact finished
  | cons j schedule later =>
    apply later
    unfold advance
    split
    · exact finished
    · rename_i effect next stepping
      have other : i ≠ j := fun same => by rw [same, stepping] at finished; cases finished
      simpa [Function.update_of_ne other] using finished

/-- Scheduling task `i` as often as it has steps left finishes it with the value it has run
alone, and leaves every other task as it was. -/
theorem execute_replicate (i : Fin n) (t : Steps σ α) :
    ∀ p : Threads n σ α, p.tasks i = t →
      (p.execute (List.replicate (t.length p.state) i)).tasks i = .done (t.run p.state).1 ∧
      ∀ j, j ≠ i → (p.execute (List.replicate (t.length p.state) i)).tasks j = p.tasks j := by
  induction t with
  | done a =>
    intro p current
    exact ⟨current, fun _ _ => rfl⟩
  | step effect next later =>
    intro p current
    have advanced : p.advance i = ⟨Function.update p.tasks i (next p.state), effect p.state⟩ := by
      simp only [advance, current]
    obtain ⟨finished, others⟩ := later p.state (p.advance i) (by simp [advanced])
    refine ⟨?_, fun j other => ?_⟩
    · simpa [Steps.length, Steps.run, List.replicate_succ, execute, advanced] using finished
    · simpa [Steps.length, List.replicate_succ, execute, advanced, Function.update_of_ne other]
        using others j other

/-- Some schedule finishes every task. -/
theorem exists_finishing (start : Threads n σ α) :
    ∃ (schedule : List (Fin n)) (results : Fin n → α),
      ∀ i, (start.execute schedule).tasks i = .done (results i) := by
  -- finish the tasks of a list one after another; tasks outside it are never scheduled
  have finishing : ∀ (l : List (Fin n)) (p : Threads n σ α), ∃ schedule : List (Fin n),
      (∀ i ∈ l, ∃ a, (p.execute schedule).tasks i = .done a) ∧
      ∀ j, j ∉ l → (p.execute schedule).tasks j = p.tasks j := by
    intro l
    induction l with
    | nil => exact fun p => ⟨[], by simp, fun _ _ => rfl⟩
    | cons i l later =>
      intro p
      obtain ⟨finished, others⟩ := execute_replicate i (p.tasks i) p rfl
      obtain ⟨rest, restFinished, restOthers⟩ :=
        later (p.execute (List.replicate ((p.tasks i).length p.state) i))
      refine ⟨List.replicate ((p.tasks i).length p.state) i ++ rest, ?_, ?_⟩
      · intro j member
        rw [execute_append]
        rcases List.mem_cons.mp member with rfl | inRest
        · exact ⟨_, execute_done finished rest⟩
        · exact restFinished j inRest
      · intro j outside
        rw [execute_append, restOthers j (fun inRest => outside (List.mem_cons_of_mem i inRest))]
        exact others j (fun same => outside (same ▸ List.mem_cons_self))
  obtain ⟨schedule, finished, -⟩ := finishing (List.finRange n) start
  choose results holds using fun i => finished i (List.mem_finRange i)
  exact ⟨schedule, results, holds⟩

theorem flatMap_update_perm {l : List (Fin n)} (distinct : l.Nodup) (hs : Fin n → List β)
    {i : Fin n} (member : i ∈ l) (e : β) :
    (l.flatMap (Function.update hs i (hs i ++ [e]))).Perm (l.flatMap hs ++ [e]) := by
  induction l with
  | nil => cases member
  | cons j l later =>
    rw [List.nodup_cons] at distinct
    by_cases same : j = i
    · subst same
      have untouched : l.flatMap (Function.update hs j (hs j ++ [e])) = l.flatMap hs :=
        List.flatMap_congr fun x inRest =>
          Function.update_of_ne (fun eq => distinct.1 (by rw [← eq]; exact inRest)) _ _
      rw [List.flatMap_cons, List.flatMap_cons, untouched, Function.update_self,
        List.append_assoc, List.append_assoc]
      exact List.Perm.append_left (hs j) List.perm_append_comm
    · have inRest : i ∈ l := (List.mem_cons.mp member).resolve_left (Ne.symm same)
      rw [List.flatMap_cons, List.flatMap_cons, Function.update_of_ne same, List.append_assoc]
      exact List.Perm.append_left (hs j) (later distinct.2 inRest)

section Schedules

variable {E : (σ → σ) → Prop} {K : σ → κ} {k : κ} {view : σ → ν} {Q : α → Prop}
  {start : Threads n σ α}

/-- Where a schedule may have brought the threads `start`: the state is at key `k`, and each
task has come where it is by a history of its own, the state being in the view what all the
histories, applied one task after another, make of the start. -/
structure Progressed (K : σ → κ) (k : κ) (view : σ → ν) (start p : Threads n σ α) : Prop where
  key : K p.state = k
  histories : ∃ hs : Fin n → List (σ → σ),
    (∀ i, Reaches K k (start.tasks i) (hs i) (p.tasks i)) ∧
    view p.state = view (applyAll ((List.finRange n).flatMap hs) start.state)

theorem progressed_start (start : Threads n σ α) (key : K start.state = k) :
    Progressed K k view start start :=
  ⟨key, fun _ => [], fun i => .refl (start.tasks i), by
    rw [List.flatMap_eq_nil_iff.mpr fun _ _ => rfl, applyAll_nil]⟩

theorem advance_progressed (commuting : Commuting E K view)
    (within : ∀ i, Within E K k Q (start.tasks i)) {p : Threads n σ α}
    (progressed : Progressed K k view start p) (i : Fin n) :
    Progressed K k view start (p.advance i) := by
  obtain ⟨key, hs, reached, seen⟩ := progressed
  unfold advance
  split
  · exact ⟨key, hs, reached, seen⟩
  · rename_i effect next stepping
    have allE : ∀ e ∈ (List.finRange n).flatMap hs, E e := by
      intro e member
      obtain ⟨j, -, inHistory⟩ := List.mem_flatMap.mp member
      exact ((within j).reaches (reached j)).2 e inHistory
    obtain ⟨stepped, -⟩ := (within i).reaches (reached i)
    rw [stepping] at stepped
    cases stepped with
    | step isE _ _ =>
      refine ⟨(commuting.key effect isE _).trans key, Function.update hs i (hs i ++ [effect]),
        fun j => ?_, ?_⟩
      · by_cases same : j = i
        · subst same
          simpa using Reaches.snoc p.state (stepping ▸ reached j) key
        · simpa [Function.update_of_ne same] using reached j
      · -- the new effect, taken last, moves into its task's place among the histories
        have grown := flatMap_update_perm (List.nodup_finRange n) hs (List.mem_finRange i) effect
        have allE' : ∀ e ∈ (List.finRange n).flatMap hs ++ [effect], E e := by
          intro e member
          rcases List.mem_append.mp member with early | last
          · exact allE e early
          · rw [List.mem_singleton.mp last]
            exact isE
        calc view (effect p.state)
            = view (effect (applyAll ((List.finRange n).flatMap hs) start.state)) :=
              commuting.congr effect isE _ _ seen
          _ = view (applyAll ((List.finRange n).flatMap hs ++ [effect]) start.state) := by
              rw [applyAll_append]
              rfl
          _ = _ := applyAll_perm commuting grown.symm allE' rfl

theorem execute_progressed (commuting : Commuting E K view)
    (within : ∀ i, Within E K k Q (start.tasks i)) (schedule : List (Fin n)) :
    ∀ p : Threads n σ α, Progressed K k view start p →
      Progressed K k view start (p.execute schedule) := by
  induction schedule with
  | nil => exact fun p progressed => progressed
  | cons i schedule later =>
    exact fun p progressed => later _ (advance_progressed commuting within progressed i)

theorem runAll_histories (commuting : Commuting E K view)
    (within : ∀ i, Within E K k Q (start.tasks i)) {hs : Fin n → List (σ → σ)}
    {results : Fin n → α} (reached : ∀ i, Reaches K k (start.tasks i) (hs i) (.done (results i)))
    (l : List (Fin n)) :
    ∀ s, K s = k → runAll (l.map start.tasks) s = (l.map results, applyAll (l.flatMap hs) s) := by
  induction l with
  | nil => exact fun s _ => rfl
  | cons i l later =>
    intro s key
    have alone : (start.tasks i).run s = (results i, applyAll (hs i) s) :=
      (reached i).run commuting (within i) key
    have inE := ((within i).reaches (reached i)).2
    have onward := later _ ((applyAll_key commuting inE s).trans key)
    simp only [List.map_cons, runAll, alone, onward, List.flatMap_cons, applyAll_append]

/-- Every schedule that finishes all tasks ends as running them alone one after another does:
each task with the value it has there, and the state the same in the view. -/
theorem execute_finished (commuting : Commuting E K view)
    (within : ∀ i, Within E K k Q (start.tasks i)) (key : K start.state = k)
    (schedule : List (Fin n)) {results : Fin n → α}
    (finished : ∀ i, (start.execute schedule).tasks i = .done (results i)) :
    (runAll ((List.finRange n).map start.tasks) start.state).1 = (List.finRange n).map results ∧
      view (start.execute schedule).state =
        view (runAll ((List.finRange n).map start.tasks) start.state).2 ∧
      ∀ i, Q (results i) := by
  obtain ⟨-, hs, reached, seen⟩ :=
    execute_progressed commuting within schedule start (progressed_start start key)
  have ended : ∀ i, Reaches K k (start.tasks i) (hs i) (.done (results i)) := fun i =>
    finished i ▸ reached i
  rw [runAll_histories commuting within ended _ _ key]
  refine ⟨rfl, seen, fun i => ?_⟩
  obtain ⟨last, -⟩ := (within i).reaches (ended i)
  cases last with
  | done holds => exact holds

end Schedules

end Threads

end DesktopPool
