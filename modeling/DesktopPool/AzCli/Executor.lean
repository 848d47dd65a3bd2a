import DesktopPool.Retry.Backoff
import DesktopPool.Command
import DesktopPool.Json.Read
import DesktopPool.Retry.Settings

/-! Running `az` commands. A command runs under the retry policy of the environment (the poll
settings for status polls, the plain ones otherwise); a nonzero exit or a timeout is retried, a
missing resource is reported at once as `notFound`. A JSON command adds `--output json`, turns
process faults into `cli` faults, reads empty output as null, and reports output that is not
JSON. Messages name commands in their masked form. -/
namespace DesktopPool

namespace AzCli

/-- How a process ended: past its deadline, or with a status and its output. -/
inductive Exit where
  | timedOut
  | finished (c : Command.Completion)

/-- What running commands needs from its surroundings: processes, sleeping, a clock that only
sleeping advances, the uniform draw of the retry jitter, the retry log, and the environment. A
sleep of something the clock cannot be moved by fails. -/
structure Shell (m : Type → Type) where
  run : List Value → Value → m Exit
  sleep : Value → m (Outcome Unit)
  clock : m Value
  draw : Value → Value → Outcome Value
  log : LogLevel → String → m Unit
  env : Env

abbrev Az (m : Type → Type) := ExceptT Fault m

def words (ws : List String) : List Value := ws.map .str

/-- How a command is run: its deadline, its attempts (null for the environment's), whether a
nonzero status is a fault, and whether it is a status poll. -/
structure Options where
  timeout : Value := .int 30
  attempts : Value := .null
  check : Bool := true
  poll : Bool := false

variable {m : Type → Type} [Monad m]

def once (sh : Shell m) (cmd : List Value) (o : Options) : m (Outcome Command.Completion) := do
  match ← sh.run cmd o.timeout with
  | .timedOut => pure (.error (Command.timedOut cmd o.timeout))
  | .finished c =>
    if c.code != 0 && o.check then
      if Command.isNotFound c.stderr then
        pure (match Command.joined ((Command.mask cmd).take 4) with
          | .ok shown => .error { kind := .notFound, message := s!"Resource not found: {shown}", stderr := some c.stderr }
          | .error f => .error f)
      else pure (.error (Command.failed (Command.mask cmd) c.code (some c.stderr)))
    else pure (.ok c)

def runCommand (sh : Shell m) (cmd : List Value) (o : Options) : Az m Command.Completion := do
  let cfg ← ExceptT.mk (pure (RetrySettings.ofEnv sh.env) : m _)
  let (dflt, initial, longest) :=
    if o.poll then (cfg.pollAttempts, cfg.pollInitialDelay, cfg.pollMaxDelay)
    else (cfg.cliAttempts, cfg.cliInitialDelay, cfg.cliMaxDelay)
  let attempts := if o.attempts.truthy then o.attempts else .int dflt
  let policy : Backoff := ⟨attempts, .float initial, .float longest, cfg.jitter, [.processFailed, .processTimeout]⟩
  let hooks : Backoff.Hooks m :=
    { sleep := sh.sleep, log := sh.log, uniform := sh.draw }
  ExceptT.mk (policy.run "_run" hooks (once sh cmd o))

def runJson (sh : Shell m) (cmd : List Value) (o : Options) : Az m Value := do
  let r : Outcome Command.Completion ← ExceptT.lift (runCommand sh (cmd ++ [.str "--output", .str "json"]) o).run
  match r with
  | .error f =>
    if f.kind.isA .cli then throw f
    else if f.kind == .processFailed then
      let detail := match f.stderr with
        | some e => if e.isEmpty then f.message else Text.trim e
        | none => f.message
      throw { kind := .cli, message := s!"Azure CLI command failed: {detail}", cause := some f.kind,
              stderr := f.stderr }
    else if f.kind == .processTimeout then
      throw (.causedBy .cli s!"Azure CLI command timed out after {o.timeout.text}s" f)
    else throw f
  | .ok c =>
    if (Text.trim c.stdout).isEmpty then pure .null
    else match Json.readValue c.stdout with
      | .ok v => pure v
      | .error (.tooLong digits) => throw (Fault.make .badValue (NumberText.tooLongMessage digits))
      | .error p =>
        let msg := p.describe c.stdout.toList.toArray
        throw { kind := .cli, message := s!"Failed to parse Azure CLI output: {msg}", cause := some .jsonSyntax }

/-- Rounds of a status poll: as many as there are doubles. A clock of doubles that every round
moves on in the same way repeats a reading within that many rounds, so a deadline it reaches at
all is reached within them. -/
def pollRounds : Nat := UInt64.size

/-- A status poll. A round either answers or passes on what it saw; after a round without an
answer the poll ends as `expired` says once the clock reads at least `deadline`, and otherwise
sleeps `interval` and polls again. Past its rounds the clock will not reach the deadline (a NaN
or infinite deadline, or an interval the clock absorbs), the program would poll forever, and the
poll ends with `endless`. -/
def pollUntil {α σ : Type} (sh : Shell m) (interval deadline : Value) (round : σ → Az m (α ⊕ σ))
    (expired : σ → Az m α) (endless : Az m α) : Nat → σ → Az m α
  | 0, _ => endless
  | rounds + 1, seen => do
    match ← round seen with
    | .inl answer => pure answer
    | .inr seen =>
      if ← ExceptT.mk (pure ((← (sh.clock : m Value)).relate .ge deadline)) then expired seen
      else
        ExceptT.mk (sh.sleep interval)
        pollUntil sh interval deadline round expired endless rounds seen

end AzCli

end DesktopPool
