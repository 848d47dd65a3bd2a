import DesktopPool.Proofs.Number.Doubling
import DesktopPool.Retry.Backoff
import DesktopPool.Proofs.Value.Whole

/-! Retrying with exponential backoff over scripted outcomes. A run with `N` attempts calls the
operation `k` times: every call before the last gives a fault the policy retries, and the last
is the `N`-th or gives an answer or a fault the policy does not retry; the run gives back that
last outcome unchanged and sleeps once between calls, at the pauses of its schedule
(`replay_ends`). With no attempts the operation never runs. When the delays are doubles, each
pause is the delay, with the drawn jitter when the policy asks for it, capped by the longest
delay; the delay doubles exactly until it reaches `2^1024`, and is an infinity from there on
(`backoff_runs_doubling_schedule`). -/
namespace DesktopPool

namespace Binary

def one : Float := Float.ofBits 0x3FF0000000000000

theorem ofInt_one : ofInt 1 = some one := by decide

theorem two_beq_zero : (two == 0) = false := by decide

/-- Whether a double lies below another as points of the extended real line. -/
def below (a b : Float) : Bool := (Num.float a).order? (.float b) == some .lt

def smaller (a b : Float) : Float := if below b a then b else a

end Binary

open Binary

theorem Value.relate_lt_float (a b : Float) :
    (Value.float a).relate .lt (.float b) = .ok (Binary.below a b) := by
  unfold Value.relate Binary.below
  simp only [Value.num?]
  cases (Num.float a).order? (.float b) with
  | none => rfl
  | some o => cases o <;> rfl

theorem Value.smaller_float (a b : Float) :
    (Value.float a).smaller (.float b) = .ok (.float (Binary.smaller a b)) := by
  unfold Value.smaller Binary.smaller
  rw [relate_lt_float, Outcome.ok_bind]
  split <;> rfl

theorem Value.mul_two_float (x : Float) :
    (Value.float x).arith .mul (.int 2) = .ok (.float (x * two)) := by
  simp [Value.arith, Value.num?, Num.arith, Num.asFloat, ofInt_two, ArithOp.onFloats]

theorem Value.fixedText_float (x : Float) : (Value.float x).fixedText 2 = .ok (FloatText.fixed x 2) :=
  rfl

namespace Backoff

variable {α : Type}

def retriesOn (p : Backoff) : Outcome α → Bool
  | .ok _ => false
  | .error f => p.retries f.kind

@[simp] theorem recording_log (t : Value) (lvl : LogLevel) (msg : String) (st : Replay α) :
    ((recording t).log lvl msg).run st = pure ((), { st with logs := st.logs ++ [(lvl, msg)] }) := rfl

@[simp] theorem recording_sleep (t d : Value) (st : Replay α) :
    ((recording t).sleep d).run st = pure (.ok (), { st with sleeps := st.sleeps ++ [d] }) := rfl

theorem replay_eq (p : Backoff) (name : String) (t : Value) (outcomes : List (Outcome α))
    (fallback : α) :
    p.replay name t outcomes fallback =
      let r := ((p.run name (recording t) (scripted fallback)).run { pending := outcomes }).run
      ⟨r.1, r.2.calls, r.2.sleeps, r.2.logs⟩ := rfl

theorem scripted_run (fallback : α) (outcomes : List (Outcome α)) (c : Nat) (st : Replay α)
    (pending : st.pending = outcomes.drop c) :
    (scripted fallback).run st = pure (outcomes.getD c (.ok fallback),
      { st with pending := outcomes.drop (c + 1), calls := st.calls + 1 }) := by
  unfold scripted
  cases rest : outcomes.drop c with
  | nil =>
    have past : outcomes.length ≤ c := List.drop_eq_nil_iff.mp rest
    simp [pending, rest, List.getElem?_eq_none past,
      List.drop_eq_nil_of_le (by omega : outcomes.length ≤ c + 1)]
  | cons o os =>
    have here : outcomes[c]? = some o := by
      rw [← Nat.add_zero c, ← List.getElem?_drop, rest]
      rfl
    have after : outcomes.drop (c + 1) = os := by
      rw [← List.drop_drop, rest]
      rfl
    simp [pending, rest, here, after]

/-- Delays and pauses of a run whose arithmetic never fails: the delay doubles from the first,
and the pause at each delay is a number that the fixed format shows. -/
structure Schedule {m : Type → Type} (p : Backoff) (h : Hooks m) where
  delay : Nat → Value
  sleep : Nat → Value
  first : delay 0 = p.initialDelay
  doubles : ∀ i, (delay i).arith .mul (.int 2) = .ok (delay (i + 1))
  pauses : ∀ i, p.pause h (delay i) = .ok (sleep i)
  shown : ∀ i, ∃ s, (sleep i).fixedText 2 = .ok s

/-- How a run from attempt `c + 1`, with `j` attempts left, ends from state `st` in `r`: after
the operation's `k`-th call, each call before the last a retried fault and the last one on the
last attempt or an outcome the policy does not retry; the run answers that outcome and sleeps
once between calls. -/
def Ends (p : Backoff) (sleep : Nat → Value) (o : Nat → Outcome α) (c j : Nat) (st : Replay α)
    (r : Outcome α × Replay α) : Prop :=
  ∃ k, c < k ∧ k ≤ c + j ∧ (∀ i, c ≤ i → i + 1 < k → p.retriesOn (o i) = true) ∧
    (k = c + j ∨ p.retriesOn (o (k - 1)) = false) ∧ r.1 = o (k - 1) ∧
    r.2.calls = st.calls + (k - c) ∧ r.2.sleeps = st.sleeps ++ (List.range' c (k - 1 - c)).map sleep

section Ends

variable {p : Backoff} {sleep : Nat → Value} {o : Nat → Outcome α} {c j : Nat} {st : Replay α}
  {r : Outcome α × Replay α}

theorem Ends.first (left : 0 < j) (stops : j = 1 ∨ p.retriesOn (o c) = false) (result : r.1 = o c)
    (calls : r.2.calls = st.calls + 1) (sleeps : r.2.sleeps = st.sleeps) : Ends p sleep o c j st r :=
  ⟨c + 1, by omega, by omega, fun i _ _ => by omega, stops.imp (by omega) (by simpa using ·),
    by simpa using result, by simpa using calls, by simpa using sleeps⟩

theorem Ends.retry {st' : Replay α} (later : Ends p sleep o (c + 1) j st' r)
    (retried : p.retriesOn (o c) = true) (calls : st'.calls = st.calls + 1)
    (sleeps : st'.sleeps = st.sleeps ++ [sleep c]) : Ends p sleep o c (j + 1) st r := by
  obtain ⟨k, above, within, retrying, stops, result, calls', sleeps'⟩ := later
  refine ⟨k, by omega, by omega, ?_, stops.imp (by omega) id, result, by omega, ?_⟩
  · intro i low high
    rcases Nat.eq_or_lt_of_le low with here | later
    · subst here
      exact retried
    · exact retrying i later high
  · rw [sleeps', sleeps, show k - 1 - c = k - 1 - (c + 1) + 1 by omega, List.range'_succ]
    simp

end Ends

/-- Each attempt of a scripted run reads the next outcome, so the run ends as `Ends` says: by
induction on the attempts left, each step by `Ends.first` or `Ends.retry`. -/
theorem loop_scripted {p : Backoff} (name : String) {t : Value} {N : Int}
    (S : Schedule p (@recording α t)) (attempts : p.attempts = .int N)
    (outcomes : List (Outcome α)) (fallback : α) :
    ∀ (j c : Nat) (st : Replay α), st.pending = outcomes.drop c → (c + j : Int) = N → 0 < j →
      Ends p S.sleep (outcomes.getD · (.ok fallback)) c j st
        ((p.loop name (recording t) (scripted fallback) j (c + 1) (S.delay c)).run st).run := by
  intro j
  induction j with
  | zero => intro c st _ _ empty; omega
  | succ j ih =>
    intro c st pending total _
    simp only [loop, StateT.run_bind, scripted_run fallback outcomes c st pending, pure_bind]
    cases outcome : outcomes.getD c (.ok fallback) with
    | ok v =>
      have read := outcome
      rw [List.getD_eq_getElem?_getD] at read
      apply Ends.first (by omega) (.inr (by rw [outcome]; rfl)) <;> dsimp only <;> split <;> simp [read]
    | error f =>
      have read := outcome
      rw [List.getD_eq_getElem?_getD] at read
      dsimp only
      by_cases retried : p.retries f.kind = true
      · have judged : (Value.int ((c : Int) + 1)).relate .ge p.attempts = .ok (decide (N ≤ c + 1)) := by
          rw [attempts, Value.relate_int, Relation.holds_ge]
        by_cases last : N ≤ c + 1
        · -- the last attempt: its fault ends the run
          apply Ends.first (by omega) (.inl (by omega)) <;> simp [retried, judged, last, read]
        · -- a retry: pause, sleep, double the delay and go on from the next outcome
          obtain ⟨shown, showing⟩ := S.shown c
          have judged' : (Value.int ((c + 1 : Nat) : Int)).relate .ge p.attempts = .ok false := by
            rw [attempts, Value.relate_int, Relation.holds_ge]
            simp only [Except.ok.injEq, decide_eq_false_iff_not]
            omega
          simp only [retried, judged', S.pauses c, showing, S.doubles c, Bool.not_true,
            Bool.false_eq_true, if_false, StateT.run_bind, recording_log, recording_sleep, pure_bind]
          exact Ends.retry (ih (c + 1) _ rfl (by omega) (by omega)) (by rw [outcome]; exact retried) rfl rfl
      · -- a fault the policy does not retry ends the run
        apply Ends.first (by omega) (.inr (by rw [outcome]; simpa [retriesOn] using retried)) <;>
          simp [retried, read]

/-- A policy with `N` attempts over scripted outcomes: with none, the operation never runs and
the run is the policy's `exhausted` fault; otherwise it runs `k` times, retrying each fault it
retries before the last call, which is the last attempt or an outcome it does not retry; the run
answers that outcome and sleeps the schedule's pauses between calls. -/
theorem replay_ends {p : Backoff} (name : String) {t : Value} {N : Int}
    (S : Schedule p (@recording α t)) (attempts : p.attempts = .int N)
    (outcomes : List (Outcome α)) (fallback : α) :
    let tr := p.replay name t outcomes fallback
    let o := (outcomes.getD · (.ok fallback))
    (N ≤ 0 → tr.result = .error (p.exhausted name) ∧ tr.calls = 0 ∧ tr.sleeps = []) ∧
    (0 < N → ∃ k : Nat, 0 < k ∧ (k : Int) ≤ N ∧ (∀ i, i + 1 < k → p.retriesOn (o i) = true) ∧
      ((k : Int) = N ∨ p.retriesOn (o (k - 1)) = false) ∧
      tr.result = o (k - 1) ∧ tr.calls = k ∧ tr.sleeps = (List.range (k - 1)).map S.sleep) := by
  intro tr o
  have start : (p.attempts.arith .add (.int 1)) = .ok (.int (N + 1)) := by
    rw [attempts, Value.arith_int]
    rfl
  constructor
  · intro none
    have empty : (N + 1 - 1).toNat = 0 := by omega
    simp only [tr, replay_eq, run, start, empty, loop]
    exact ⟨rfl, rfl, rfl⟩
  · intro some
    obtain ⟨k, above, within, retrying, stops, result, calls, sleeps⟩ :=
      loop_scripted name S attempts outcomes fallback N.toNat 0 { pending := outcomes } rfl (by omega)
        (by omega)
    have count : (N + 1 - 1).toNat = N.toNat := by omega
    simp only [Nat.zero_add] at result calls sleeps
    refine ⟨k, above, by omega, fun i low => retrying i (Nat.zero_le i) low, stops.imp (by omega) id,
      ?_, ?_, ?_⟩
    · simp only [tr, replay_eq, run, start, count, ← S.first]
      exact result
    · simp only [tr, replay_eq, run, start, count, ← S.first]
      exact calls
    · simp only [tr, replay_eq, run, start, count, ← S.first, List.range_eq_range']
      simpa using sleeps

def jittered (t D : Float) : Float :=
  D + (-(D * 0.25) + (D * 0.25 - -(D * 0.25)) * (t + one) / two)

def pauseAt (jitter : Bool) (t m D : Float) : Float := smaller (if jitter then jittered t D else D) m

theorem pause_float {m : Type → Type} {p : Backoff} {h : Hooks m} {t D M : Float}
    (cap : p.longest = .float M) (draw : h.uniform = drawAt (.float t)) :
    p.pause h (.float D) = .ok (.float (pauseAt p.jitter t M D)) := by
  unfold pause pauseAt
  cases p.jitter
  · simp [cap, Value.smaller_float]
  · simp [cap, draw, drawAt, jittered, Value.arith, Value.num?, Num.arith, Num.asFloat,
      ArithOp.onFloats, ofInt_one, ofInt_two, two_beq_zero, Value.negate, Value.smaller_float]

def Schedule.ofFloats {m : Type → Type} {p : Backoff} {h : Hooks m} {d M t : Float}
    (start : p.initialDelay = .float d) (cap : p.longest = .float M)
    (draw : h.uniform = drawAt (.float t)) : Schedule p h where
  delay i := .float (doublings d i)
  sleep i := .float (pauseAt p.jitter t M (doublings d i))
  first := start.symm
  doubles i := by
    rw [Value.mul_two_float, doublings, doublings, Function.iterate_succ_apply']
  pauses _ := pause_float cap draw
  shown _ := ⟨_, Value.fixedText_float _⟩

/-- Retrying with exponential backoff, the delays being doubles: with `N` attempts or none, the
operation runs `k` times and the run gives back the last outcome as `replay_ends` says; the
`i`-th sleep is the delay doubled `i` times, with the jitter when asked, capped by the longest
delay. Doubling is exact while the delay stays below `2^1024` and gives an infinity of its sign
from there on, so without a cap the sleeps reach infinity. -/
theorem backoff_runs_doubling_schedule (p : Backoff) (name : String) {N : Int} {d M t : Float}
    (outcomes : List (Outcome α)) (fallback : α) (attempts : p.attempts = .int N)
    (start : p.initialDelay = .float d) (cap : p.longest = .float M) :
    let tr := p.replay name (.float t) outcomes fallback
    let o := (outcomes.getD · (.ok fallback))
    (N ≤ 0 → tr.result = .error (p.exhausted name) ∧ tr.calls = 0 ∧ tr.sleeps = []) ∧
    (0 < N → ∃ k : Nat, 0 < k ∧ (k : Int) ≤ N ∧ (∀ i, i + 1 < k → p.retriesOn (o i) = true) ∧
      ((k : Int) = N ∨ p.retriesOn (o (k - 1)) = false) ∧ tr.result = o (k - 1) ∧ tr.calls = k ∧
      tr.sleeps = (List.range (k - 1)).map fun i => .float (pauseAt p.jitter t M (doublings d i))) ∧
    (∀ neg m e, decode d = .finite neg m e → ∀ i : Nat,
      ((m : ℚ) * 2 ^ (e + i) < 2 ^ 1024 →
        ∃ m' e', decode (doublings d i) = .finite neg m' e' ∧ (m' : ℚ) * 2 ^ e' = m * 2 ^ (e + i)) ∧
      (2 ^ 1024 ≤ (m : ℚ) * 2 ^ (e + i) → decode (doublings d i) = .inf neg)) := by
  intro tr o
  have run := replay_ends name (Schedule.ofFloats start cap rfl : Schedule p (@recording α (.float t)))
    attempts outcomes fallback
  refine ⟨run.1, run.2, ?_⟩
  intro neg m e parts i
  obtain ⟨fits, past⟩ := @doubled_iterate neg m e (canonical_of_decode parts) i
  rw [decode_doublings, parts]
  exact ⟨fun below => (fits below).imp fun m' ⟨e', now, _, value⟩ => ⟨e', now, value⟩, past⟩

/-- The largest power of two below the largest double, `2^1023`, doubles to infinity. -/
theorem doubling_overflows :
    decode (doublings (Float.ofBits 0x7FE0000000000000) 1) = .inf false := by
  have parts : decode (Float.ofBits 0x7FE0000000000000) = .finite false (2 ^ 52) 971 := by
    unfold decode
    rw [toBits_ofBits _ (by decide)]
    rfl
  have reach : (2 : ℚ) ^ 1024 ≤ ((2 ^ 52 : Nat) : ℚ) * 2 ^ ((971 : Int) + (1 : Nat)) := by
    have := le_value_of_full (m := 2 ^ 52) le_rfl
    simpa using this
  exact ((backoff_runs_doubling_schedule
    ⟨.int 3, .float (Float.ofBits 0x7FE0000000000000), .float (Float.ofBits 0x7FF0000000000000), false,
      [.timedOut]⟩ "operation" (t := 0) ([] : List (Outcome Value)) (.str "ok") rfl rfl rfl).2.2
    false (2 ^ 52) 971 parts 1).2 reach

/-- Three timeouts under a policy of three attempts from `2^1023` with no cap: the second sleep is
infinite, not the exact double `2^1024`. -/
theorem uncapped_sleeps_reach_infinity :
    (Backoff.replay ⟨.int 3, .float (Float.ofBits 0x7FE0000000000000),
        .float (Float.ofBits 0x7FF0000000000000), false, [.timedOut, .connection, .processTimeout]⟩
      "operation" (.float 0)
      [.error (Fault.make .timedOut "t"), .error (Fault.make .timedOut "t"), .error (Fault.make .timedOut "t")]
      (Value.str "ok")).sleeps =
      [.float (Float.ofBits 0x7FE0000000000000), .float (Float.ofBits 0x7FF0000000000000)] := by
  obtain ⟨k, above, within, -, stops, -, -, sleeps⟩ :=
    (backoff_runs_doubling_schedule ⟨.int 3, .float (Float.ofBits 0x7FE0000000000000),
        .float (Float.ofBits 0x7FF0000000000000), false, [.timedOut, .connection, .processTimeout]⟩
      "operation" (t := 0)
      [.error (Fault.make .timedOut "t"), .error (Fault.make .timedOut "t"), .error (Fault.make .timedOut "t")]
      (Value.str "ok") rfl rfl rfl).2.1 (by decide)
  -- every outcome is a retried timeout, so the run makes all three calls
  have three : k = 3 := by
    rcases stops with last | stopped
    · omega
    · have : k ≤ 3 := by omega
      interval_cases k <;> revert stopped <;> decide
  subst three
  -- the first pause is the delay itself, the second its double, which is infinite
  have first : pauseAt false 0 (Float.ofBits 0x7FF0000000000000) (doublings (Float.ofBits 0x7FE0000000000000) 0) =
      Float.ofBits 0x7FE0000000000000 := by decide
  have second : pauseAt false 0 (Float.ofBits 0x7FF0000000000000) (doublings (Float.ofBits 0x7FE0000000000000) 1) =
      Float.ofBits 0x7FF0000000000000 := by decide
  rw [sleeps]
  show [Value.float _, Value.float _] = _
  rw [first, second]

end Backoff

end DesktopPool
