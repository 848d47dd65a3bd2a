import DesktopPool.Value.Number
import DesktopPool.Secret

/-! Retrying an operation with exponential backoff. The attempts are numbered from one up to
the policy's `attempts` (a dynamic value: one more than it must be a whole number). A success
ends the run (logged when it was not the first attempt); a fault of a kind the policy does not
retry ends it at once; a retried fault on the last attempt is logged and ends it. Otherwise the
run computes the pause, the smaller of `delay` (with a uniform jitter of `±delay/4` added when
the policy asks for one) and the longest delay, logs it with two decimal places, sleeps it (a
sleep that fails ends the run with its fault), and doubles the delay. The delays are dynamic values too, so each of these steps can fail the way
the arithmetic, comparison or format fails. With no attempts the operation never runs and the
run is a `misuse` fault. -/
namespace DesktopPool

inductive LogLevel where
  | info | warning | error
  deriving DecidableEq, Repr

def LogLevel.name : LogLevel → String
  | .info => "INFO" | .warning => "WARNING" | .error => "ERROR"

structure Backoff where
  attempts : Value
  initialDelay : Value
  longest : Value
  jitter : Bool
  retryable : List Kind

namespace Backoff

def retries (p : Backoff) (k : Kind) : Bool := p.retryable.any (k.isA ·)

/-- What a retry run needs from its surroundings: sleeping, which may fail, logging, and the
uniform draw `uniform a b` in `[a, b]`. -/
structure Hooks (m : Type → Type) where
  sleep : Value → m (Outcome Unit)
  log : LogLevel → String → m Unit
  uniform : Value → Value → Outcome Value

/-- The delay before the next attempt: jitter added when asked, capped by the longest delay. -/
def pause {m : Type → Type} (p : Backoff) (h : Hooks m) (delay : Value) : Outcome Value := do
  let withJitter ←
    if p.jitter then do
      let spread ← delay.arith .mul (.float 0.25)
      let low ← spread.negate
      delay.arith .add (← h.uniform low spread)
    else pure delay
  withJitter.smaller p.longest

/-- The fault of a run whose attempts ran out without an answer. -/
def exhausted (p : Backoff) (name : String) : Fault :=
  Fault.make .misuse s!"{name} called with max_attempts={p.attempts.text}"

def loop {m : Type → Type} [Monad m] {α : Type} (p : Backoff) (name : String) (h : Hooks m)
    (op : m (Outcome α)) : Nat → Nat → Value → m (Outcome α)
  | 0, _, _ => pure (.error (p.exhausted name))
  | left + 1, attempt, delay => do
    match ← op with
    | .ok v =>
      if attempt > 1 then h.log .info s!"{name} succeeded on attempt {attempt}/{p.attempts.text}"
      pure (.ok v)
    | .error f =>
      if !p.retries f.kind then pure (.error f)
      else match (Value.int attempt).relate .ge p.attempts with
        | .error g => pure (.error g)
        | .ok true =>
          h.log .error s!"{name} failed after {p.attempts.text} attempts: {Secret.safeMessage f.message f.stderr}"
          pure (.error f)
        | .ok false =>
          match pause p h delay with
          | .error g => pure (.error g)
          | .ok actual =>
            match actual.fixedText 2 with
            | .error g => pure (.error g)
            | .ok shown =>
              h.log .warning
                s!"{name} failed on attempt {attempt}/{p.attempts.text}, retrying in {shown}s: {Secret.safeMessage f.message f.stderr}"
              match ← h.sleep actual with
              | .error g => pure (.error g)
              | .ok _ =>
                match delay.arith .mul (.int 2) with
                | .ok next => loop p name h op left (attempt + 1) next
                | .error g => pure (.error g)

def run {m : Type → Type} [Monad m] {α : Type} (p : Backoff) (name : String) (h : Hooks m)
    (op : m (Outcome α)) : m (Outcome α) :=
  match p.attempts.arith .add (.int 1) with
  | .error f => pure (.error f)
  | .ok (.int stop) => loop p name h op (stop - 1).toNat 1 p.initialDelay
  | .ok other => pure (fail .wrongType s!"{Text.quote other.typeName} object cannot be interpreted as an integer")

/-- The uniform draw at position `t` of `[-1, 1]`: `a + (b - a) * (t + 1) / 2`. -/
def drawAt (t : Value) (a b : Value) : Outcome Value := do
  let width ← b.arith .sub a
  let scaled ← width.arith .mul (← t.arith .add (.int 1))
  a.arith .add (← scaled.arith .div (.int 2))

/-- What a run over scripted outcomes did: its result, how often the operation ran, the
sleeps and the log lines. -/
structure Trace (α : Type) where
  result : Outcome α
  calls : Nat
  sleeps : List Value
  logs : List (LogLevel × String)

structure Replay (α : Type) where
  pending : List (Outcome α)
  calls : Nat := 0
  sleeps : List Value := []
  logs : List (LogLevel × String) := []

/-- The hooks of a scripted run: sleeps and log lines are recorded, and the draw is at position
`t`. -/
def recording {α : Type} (t : Value) : Hooks (StateM (Replay α)) :=
  { sleep := fun d => do
      modify fun st => { st with sleeps := st.sleeps ++ [d] }
      pure (.ok ())
    log := fun lvl msg => modify fun st => { st with logs := st.logs ++ [(lvl, msg)] }
    uniform := drawAt t }

/-- The scripted operation: call `i` gives the `i`-th outcome, and `fallback` once they run out. -/
def scripted {α : Type} (fallback : α) : StateM (Replay α) (Outcome α) := do
  let st ← get
  let (r, rest) : Outcome α × List (Outcome α) := match st.pending with
    | [] => (.ok fallback, [])
    | o :: os => (o, os)
  set { st with pending := rest, calls := st.calls + 1 }
  pure r

def replay {α : Type} (p : Backoff) (name : String) (t : Value) (outcomes : List (Outcome α))
    (fallback : α) : Trace α :=
  let (r, st) := (run p name (recording t) (scripted fallback)).run { pending := outcomes }
  ⟨r, st.calls, st.sleeps, st.logs⟩

end Backoff

end DesktopPool
