import DesktopPool.Retry.Backoff

/-! Retry runs seen through a map of states. When the operation and the hooks of a run act, from
the image of a state, as they act from the state seen through a map, so does the whole retry
run (`run_simulates`). A run over one state is then read off a run over another: a command
run over a shell off the scripted retry run over its judged outcomes. -/
namespace DesktopPool

namespace Backoff

section Simulation

variable {σ τ : Type} (φ : σ → τ)

/-- `y` run from the image of a state gives what `x` gives from the state, and ends in the image
of the state `x` ends in. -/
def Simulates {β : Type} (x : StateM σ β) (y : StateM τ β) : Prop :=
  ∀ s, (y.run (φ s)).run = ((x.run s).run.1, φ (x.run s).run.2)

/-- Hooks that act alike through `φ`, and draw alike. -/
structure HooksSimulate (h : Hooks (StateM σ)) (k : Hooks (StateM τ)) : Prop where
  sleep : ∀ d, Simulates φ (h.sleep d) (k.sleep d)
  log : ∀ l msg, Simulates φ (h.log l msg) (k.log l msg)
  uniform : h.uniform = k.uniform

variable {φ}

theorem Simulates.pure {β : Type} (b : β) : Simulates φ (Pure.pure b) (Pure.pure b) := fun _ => rfl

theorem Simulates.bind {β γ : Type} {x : StateM σ β} {y : StateM τ β} {f : β → StateM σ γ}
    {g : β → StateM τ γ} (first : Simulates φ x y) (rest : ∀ b, Simulates φ (f b) (g b)) :
    Simulates φ (x >>= f) (y >>= g) := by
  intro s
  rw [StateT.run_bind, StateT.run_bind, Id.run_bind, Id.run_bind, first s]
  exact rest _ _

variable {α : Type} {h : Hooks (StateM σ)} {k : Hooks (StateM τ)}

theorem pause_uniform {m m' : Type → Type} {p : Backoff} {h : Hooks m} {k : Hooks m'} {d : Value}
    (same : h.uniform = k.uniform) : p.pause h d = p.pause k d := by
  unfold pause
  rw [same]

theorem loop_simulates (p : Backoff) (name : String) (hooks : HooksSimulate φ h k)
    {op₁ : StateM σ (Outcome α)} {op₂ : StateM τ (Outcome α)} (op : Simulates φ op₁ op₂) :
    ∀ j c d, Simulates φ (p.loop name h op₁ j c d) (p.loop name k op₂ j c d) := by
  intro j
  induction j with
  | zero => intro c d; exact Simulates.pure _
  | succ j ih =>
    intro c d
    simp only [loop]
    refine Simulates.bind op fun b => ?_
    -- the branches after the call read only the outcome, the counters and the draw
    cases b with
    | ok v =>
      dsimp only
      by_cases later : c > 1
      · rw [if_pos later, if_pos later]
        exact (hooks.log _ _).bind fun _ => .pure _
      · rw [if_neg later, if_neg later]
        exact .pure _
    | error f =>
      dsimp only
      rw [pause_uniform hooks.uniform]
      by_cases kept : (!p.retries f.kind) = true
      · rw [if_pos kept, if_pos kept]
        exact .pure _
      rw [if_neg kept, if_neg kept]
      cases (Value.int c).relate .ge p.attempts with
      | error g => exact .pure _
      | ok last =>
        cases last with
        | true => exact (hooks.log _ _).bind fun _ => .pure _
        | false =>
          dsimp only
          cases p.pause k d with
          | error g => exact .pure _
          | ok actual =>
            dsimp only
            cases actual.fixedText 2 with
            | error g => exact .pure _
            | ok shown =>
              refine (hooks.log _ _).bind fun _ => (hooks.sleep _).bind fun slept => ?_
              cases slept with
              | error g => exact .pure _
              | ok _ =>
                cases d.arith .mul (.int 2) with
                | ok next => exact ih _ _
                | error g => exact .pure _

theorem run_simulates (p : Backoff) (name : String) (hooks : HooksSimulate φ h k)
    {op₁ : StateM σ (Outcome α)} {op₂ : StateM τ (Outcome α)} (op : Simulates φ op₁ op₂) :
    Simulates φ (p.run name h op₁) (p.run name k op₂) := by
  unfold run
  split
  · exact .pure _
  · exact loop_simulates p name hooks op _ _ _
  · exact .pure _

end Simulation

end Backoff

end DesktopPool
