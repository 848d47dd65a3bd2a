import DesktopPool.Proofs.Retry.Schedule
import DesktopPool.Proofs.Retry.Simulation
import DesktopPool.Proofs.AzCli.Secrets

/-! The attempts of a command. A command run starts its process until one succeeds, reports a
missing resource, or has failed transiently (a timeout, or a nonzero status checked and not
reporting a missing resource) on the last attempt; it retries only the transient ends, with the
pauses of the retry law in between, and a JSON command passes a missing resource through
(`command_runs_classify_and_retry`). The attempts are the command's own, or the environment's
for plain commands or status polls; with none the command never starts. The processes are
taken from a tape: the `i`-th process started ends as the tape's `i`-th entry. -/
namespace DesktopPool

namespace Outcome

theorem mapM_ok {α β : Type} {f : α → Outcome β} :
    ∀ {xs : List α}, (∀ x ∈ xs, ∃ y, f x = .ok y) → ∃ ys, xs.mapM f = .ok ys
  | [], _ => ⟨[], rfl⟩
  | x :: xs, each => by
    obtain ⟨y, first⟩ := each x (List.mem_cons_self ..)
    obtain ⟨ys, rest⟩ := mapM_ok fun z member => each z (List.mem_cons_of_mem _ member)
    exact ⟨y :: ys, by simp [List.mapM_cons, first, rest]⟩

theorem bind_of_mapM_ok {α β γ : Type} {f : α → Outcome β} {g : List β → Outcome γ} {xs : List α}
    (each : ∀ x ∈ xs, ∃ y, f x = .ok y) (after : ∀ ys, ∃ z, g ys = .ok z) :
    ∃ z, xs.mapM f >>= g = .ok z := by
  obtain ⟨ys, mapped⟩ := mapM_ok each
  obtain ⟨z, last⟩ := after ys
  exact ⟨z, by rw [mapped, Outcome.ok_bind, last]⟩

end Outcome

namespace Backoff

theorem exhausted_int {p : Backoff} {A : Int} (attempts : p.attempts = .int A) (name : String) :
    p.exhausted name = Fault.make .misuse (name ++ " called with max_attempts=" ++ toString A) := by
  simp only [Backoff.exhausted, attempts, Value.text, Value.repr, toString]

end Backoff

namespace AzCli

/-- What a taped shell records: the processes started, with their deadlines, the sleeps and the
log lines. -/
structure Tape where
  started : List (List Value × Value) := []
  sleeps : List Value := []
  logs : List (LogLevel × String) := []

def Exit.plain : Exit := .finished ⟨0, "", ""⟩

/-- A shell whose processes end as `exits` says, in the order they start, and plainly once it
runs out; the retry draw is at `t`. -/
def Shell.taped (exits : List Exit) (env : Env) (t : Value) : Shell (StateM Tape) where
  run cmd timeout := do
    let s ← get
    set { s with started := s.started ++ [(cmd, timeout)] }
    pure (exits.getD s.started.length Exit.plain)
  sleep d := do
    modify fun s => { s with sleeps := s.sleeps ++ [d] }
    pure (.ok ())
  clock := pure (.float 0)
  draw := Backoff.drawAt t
  log l msg := modify fun s => { s with logs := s.logs ++ [(l, msg)] }
  env := env

/-- What a run of `cmd` makes of a process that ended as `e`. -/
def judged (cmd : List Value) (o : Options) : Exit → Outcome Command.Completion
  | .timedOut => .error (Command.timedOut cmd o.timeout)
  | .finished c =>
    if c.code != 0 && o.check then
      if Command.isNotFound c.stderr then
        match Command.joined ((Command.mask cmd).take 4) with
        | .ok shown => .error { kind := .notFound, message := s!"Resource not found: {shown}", stderr := some c.stderr }
        | .error f => .error f
      else .error (Command.failed (Command.mask cmd) c.code (some c.stderr))
    else .ok c

variable {m : Type → Type} [Monad m] [LawfulMonad m]

theorem once_judged (sh : Shell m) (cmd : List Value) (o : Options) :
    once sh cmd o = judged cmd o <$> sh.run cmd o.timeout := by
  unfold once
  rw [map_eq_pure_bind]
  congr
  funext e
  cases e with
  | timedOut => rfl
  | finished c =>
    simp only [judged]
    split_ifs <;> rfl

def retryHooks (sh : Shell m) : Backoff.Hooks m :=
  { sleep := sh.sleep, log := sh.log, uniform := sh.draw }

/-- The retry policy of a command run under retry settings `cfg`: the command's attempts (the
settings' when none are given), the delays of plain commands or of status polls, the settings'
jitter, and retries of failed and timed-out processes. -/
def policyOf (o : Options) (cfg : RetrySettings) : Backoff :=
  ⟨if o.attempts.truthy then o.attempts else .int (if o.poll then cfg.pollAttempts else cfg.cliAttempts),
    .float (if o.poll then cfg.pollInitialDelay else cfg.cliInitialDelay),
    .float (if o.poll then cfg.pollMaxDelay else cfg.cliMaxDelay), cfg.jitter,
    [.processFailed, .processTimeout]⟩

theorem runCommand_run (sh : Shell m) (cmd : List Value) (o : Options) {cfg : RetrySettings}
    (settings : RetrySettings.ofEnv sh.env = .ok cfg) :
    (runCommand sh cmd o).run = (policyOf o cfg).run "_run" (retryHooks sh) (once sh cmd o) := by
  unfold runCommand
  simp [settings, retryHooks, policyOf]
  cases o.poll <;> rfl

theorem judged_plain (cmd : List Value) (o : Options) : judged cmd o Exit.plain = .ok ⟨0, "", ""⟩ := rfl

theorem joined_texts {args : List Value} (texts : ∀ v ∈ args, ∃ x, v = .str x) :
    ∃ shown, Command.joined args = .ok shown := by
  unfold Command.joined
  apply Outcome.bind_of_mapM_ok
  · intro ai member
    obtain ⟨x, text⟩ := texts ai.1 (List.fst_mem_of_mem_zipIdx member)
    obtain ⟨a, i⟩ := ai
    dsimp only at text
    subst text
    exact ⟨x, rfl⟩
  · intro ts
    exact ⟨_, rfl⟩

theorem mask_words (ws : List String) : ∀ v ∈ Command.mask (words ws), ∃ x, v = .str x := by
  intro v member
  obtain ⟨j, at_⟩ := List.mem_iff_getElem?.mp member
  rw [Command.getElem?_mask] at at_
  obtain ⟨a, given, shown⟩ := Option.map_eq_some_iff.mp at_
  have word : a ∈ words ws := List.mem_of_getElem? given
  obtain ⟨x, -, rfl⟩ := List.mem_map.mp word
  subst shown
  split
  · exact ⟨_, rfl⟩
  · exact ⟨x, rfl⟩

/-- A process end the executor retries: a timeout, or, when statuses are checked, a nonzero
status whose error output reports no missing resource. -/
def Transient (o : Options) : Exit → Prop
  | .timedOut => True
  | .finished c => c.code ≠ 0 ∧ o.check = true ∧ Command.isNotFound c.stderr = false

/-- The ends of a process of a command of texts, as the executor judges them: a success for a
zero status or an unchecked one; a missing resource, not retried; a failure of the masked
command; a timeout of the command as given. -/
theorem judged_cases (ws : List String) (o : Options) (e : Exit) :
    (∃ c, e = .finished c ∧ (c.code = 0 ∨ o.check = false) ∧ judged (words ws) o e = .ok c) ∨
    (∃ c shown, e = .finished c ∧ c.code ≠ 0 ∧ o.check = true ∧ Command.isNotFound c.stderr = true ∧
      judged (words ws) o e =
        .error { kind := .notFound, message := "Resource not found: " ++ shown, stderr := some c.stderr }) ∨
    (∃ c, e = .finished c ∧ Transient o e ∧
      judged (words ws) o e = .error (Command.failed (Command.mask (words ws)) c.code (some c.stderr))) ∨
    (e = .timedOut ∧ judged (words ws) o e = .error (Command.timedOut (words ws) o.timeout)) := by
  cases e with
  | timedOut => exact .inr (.inr (.inr ⟨rfl, rfl⟩))
  | finished c =>
    by_cases checked : (c.code != 0 && o.check) = true
    · have failed : c.code ≠ 0 ∧ o.check = true := by simpa using checked
      cases missing : Command.isNotFound c.stderr
      · refine .inr (.inr (.inl ⟨c, rfl, ⟨failed.1, failed.2, missing⟩, ?_⟩))
        simp [judged, checked, missing]
      · have texts : ∃ shown, Command.joined ((Command.mask (words ws)).take 4) = .ok shown :=
          joined_texts fun v member => mask_words ws v (List.mem_of_mem_take member)
        obtain ⟨shown, joined⟩ := texts
        refine .inr (.inl ⟨c, shown, rfl, failed.1, failed.2, missing, ?_⟩)
        simp [judged, checked, missing, joined]
        rfl
    · refine .inl ⟨c, rfl, ?_, by simp [judged, checked]⟩
      by_cases zero : c.code = 0
      · exact .inl zero
      · exact .inr (by simpa [zero] using checked)

theorem retriesOn_judged (ws : List String) (o : Options) (cfg : RetrySettings) (e : Exit) :
    (policyOf o cfg).retriesOn (judged (words ws) o e) = true ↔ Transient o e := by
  rcases judged_cases ws o e with ⟨c, rfl, plain, judge⟩ | ⟨c, shown, rfl, code, check, missing, judge⟩ |
    ⟨c, rfl, transient, judge⟩ | ⟨rfl, judge⟩
  · rw [judge]
    rcases plain with zero | unchecked <;> simp [Backoff.retriesOn, Transient, *]
  · rw [judge]
    simp [Backoff.retriesOn, Transient, missing, Backoff.retries, policyOf, Kind.isA, Kind.parents]
  · rw [judge]
    simp [Backoff.retriesOn, transient, Backoff.retries, policyOf, Command.failed, Kind.isA]
  · rw [judge]
    simp [Backoff.retriesOn, Transient, Backoff.retries, policyOf, Command.timedOut, Fault.make, Kind.isA]

/-- The scripted retry run a taped command run follows: the judged ends of the processes not
yet started, and the count, sleeps and log lines so far. -/
def Tape.replay (exits : List Exit) (cmd : List Value) (o : Options) (s : Tape) :
    Backoff.Replay Command.Completion :=
  { pending := (exits.map (judged cmd o)).drop s.started.length, calls := s.started.length,
    sleeps := s.sleeps, logs := s.logs }

theorem once_simulates (exits : List Exit) (env : Env) (t : Value) (cmd : List Value) (o : Options) :
    Backoff.Simulates (Tape.replay exits cmd o) (once (Shell.taped exits env t) cmd o)
      (Backoff.scripted ⟨0, "", ""⟩) := by
  intro s
  rw [Backoff.scripted_run ⟨0, "", ""⟩ (exits.map (judged cmd o)) s.started.length _ rfl]
  rw [← judged_plain cmd o, List.getD_map]
  simp [once_judged, Shell.taped, Tape.replay]

theorem taped_hooks_simulate (exits : List Exit) (env : Env) (t : Value) (cmd : List Value) (o : Options) :
    Backoff.HooksSimulate (Tape.replay exits cmd o) (retryHooks (Shell.taped exits env t))
      (Backoff.recording t) where
  sleep _ _ := rfl
  log _ _ _ := rfl
  uniform := rfl

def Tape.uniform (cmd : List Value) (deadline : Value) (s : Tape) : Tape :=
  { s with started := List.replicate s.started.length (cmd, deadline) }

theorem once_uniform (exits : List Exit) (env : Env) (t : Value) (cmd : List Value) (o : Options) :
    Backoff.Simulates (Tape.uniform cmd o.timeout) (once (Shell.taped exits env t) cmd o)
      (once (Shell.taped exits env t) cmd o) := by
  intro s
  simp [once_judged, Shell.taped, Tape.uniform, List.replicate_succ']

theorem taped_hooks_uniform (exits : List Exit) (env : Env) (t : Value) (cmd : List Value)
    (deadline : Value) :
    Backoff.HooksSimulate (Tape.uniform cmd deadline) (retryHooks (Shell.taped exits env t))
      (retryHooks (Shell.taped exits env t)) where
  sleep _ _ := rfl
  log _ _ _ := rfl
  uniform := rfl

/-- A command run over a taped shell follows the scripted retry run over the judged ends of its
processes: the same result and sleeps, and one start of the command, with its deadline, per
call. -/
theorem taped_runCommand (exits : List Exit) (env : Env) (t : Value) (cmd : List Value) (o : Options)
    {cfg : RetrySettings} (settings : RetrySettings.ofEnv env = .ok cfg) :
    let tr := (policyOf o cfg).replay "_run" t (exits.map (judged cmd o)) ⟨0, "", ""⟩
    let r := ((runCommand (Shell.taped exits env t) cmd o).run.run {}).run
    r.1 = tr.result ∧ r.2.started = List.replicate tr.calls (cmd, o.timeout) ∧ r.2.sleeps = tr.sleeps := by
  have unfolded : (runCommand (Shell.taped exits env t) cmd o).run =
      (policyOf o cfg).run "_run" (retryHooks (Shell.taped exits env t)) (once (Shell.taped exits env t) cmd o) :=
    runCommand_run _ cmd o settings
  have replayed := Backoff.run_simulates (policyOf o cfg) "_run" (taped_hooks_simulate exits env t cmd o)
    (once_simulates exits env t cmd o) {}
  have uniform := Backoff.run_simulates (policyOf o cfg) "_run" (taped_hooks_uniform exits env t cmd o.timeout)
    (once_uniform exits env t cmd o) {}
  have start : Tape.replay exits cmd o {} = { pending := exits.map (judged cmd o) } := rfl
  have fresh : Tape.uniform cmd o.timeout {} = {} := rfl
  rw [start] at replayed
  rw [fresh] at uniform
  simp only [Backoff.replay_eq, unfolded, replayed]
  generalize ((StateT.run ((policyOf o cfg).run "_run" (retryHooks (Shell.taped exits env t))
    (once (Shell.taped exits env t) cmd o)) {}).run) = R at uniform ⊢
  refine ⟨trivial, ?_, rfl⟩
  have same : R.2 = Tape.uniform cmd o.timeout R.2 := congrArg Prod.snd uniform
  exact congrArg Tape.started same

theorem runJson_after {σ : Type} (sh : Shell (StateM σ)) (cmd : List Value) (o : Options) (s : σ) :
    let rc := ((runCommand sh (cmd ++ [.str "--output", .str "json"]) o).run.run s).run
    let rj := ((runJson sh cmd o).run.run s).run
    rj.2 = rc.2 ∧ ∀ f, rc.1 = .error f → f.kind.isA .cli = true → rj.1 = .error f := by
  intro rc rj
  simp only [rj, rc, runJson, ExceptT.run_bind, ExceptT.run_lift, bind_map_left, StateT.run_bind,
    Id.run_bind]
  generalize ((runCommand sh (cmd ++ [.str "--output", .str "json"]) o).run.run s).run = R
  obtain ⟨res, after⟩ := R
  cases res with
  | ok c =>
    refine ⟨?_, fun f gave => by cases gave⟩
    dsimp only
    split_ifs
    · rfl
    · split <;> rfl
  | error f =>
    dsimp only
    by_cases line : f.kind.isA .cli = true
    · simp only [line, if_true]
      exact ⟨rfl, fun g gave _ => by cases gave; rfl⟩
    · simp only [line]
      refine ⟨?_, fun g gave cli => by cases gave; exact absurd cli line⟩
      split_ifs <;> rfl

/-- The executor classifies the ends of its processes and retries only the transient ones. A
command of texts run over a taped shell with the retry settings of its environment, `A` attempts
(the command's own unless they are null or zero, else those of status polls or of plain
commands) and the first delay `d` and longest delay `M` of the same kind: with no attempts it
starts nothing and fails as misused; otherwise it starts the command `k ≤ A` times, each with
its deadline, every process before the last ending transiently, and the last one a success (a
zero status, or any status unchecked), a missing resource, or the `A`-th, whose failure of the
masked command or timeout is the result; it sleeps the retry law's pauses in between. A JSON
command makes the processes and sleeps of the command with the output format appended, and
passes a missing resource through unchanged. -/
theorem command_runs_classify_and_retry (ws : List String) (exits : List Exit) (env : Env) (t : Float)
    (o : Options) {cfg : RetrySettings} (settings : RetrySettings.ofEnv env = .ok cfg) {a : Int}
    (given : o.attempts = .null ∨ o.attempts = .int a) :
    let A : Int := if o.attempts.truthy then a else if o.poll then cfg.pollAttempts else cfg.cliAttempts
    let d := if o.poll then cfg.pollInitialDelay else cfg.cliInitialDelay
    let M := if o.poll then cfg.pollMaxDelay else cfg.cliMaxDelay
    let e := (exits.getD · Exit.plain)
    let r := ((runCommand (Shell.taped exits env (.float t)) (words ws) o).run.run {}).run
    let rj := ((runJson (Shell.taped exits env (.float t)) (words ws) o).run.run {}).run
    let rc := ((runCommand (Shell.taped exits env (.float t)) (words (ws ++ ["--output", "json"])) o).run.run {}).run
    (A ≤ 0 → r.1 = .error (Fault.make .misuse ("_run called with max_attempts=" ++ toString A)) ∧
      r.2.started = [] ∧ r.2.sleeps = []) ∧
    (0 < A → ∃ k : Nat, 0 < k ∧ (k : Int) ≤ A ∧ r.2.started = List.replicate k (words ws, o.timeout) ∧
      (∀ i, i + 1 < k → Transient o (e i)) ∧
      ((∃ c, e (k - 1) = .finished c ∧ (c.code = 0 ∨ o.check = false) ∧ r.1 = .ok c) ∨
       (∃ c shown, e (k - 1) = .finished c ∧ c.code ≠ 0 ∧ o.check = true ∧
         Command.isNotFound c.stderr = true ∧
         r.1 = .error { kind := .notFound, message := "Resource not found: " ++ shown, stderr := some c.stderr }) ∨
       ((k : Int) = A ∧ ∃ c, e (k - 1) = .finished c ∧ c.code ≠ 0 ∧ o.check = true ∧
         Command.isNotFound c.stderr = false ∧
         r.1 = .error (Command.failed (Command.mask (words ws)) c.code (some c.stderr))) ∨
       ((k : Int) = A ∧ e (k - 1) = .timedOut ∧ r.1 = .error (Command.timedOut (words ws) o.timeout))) ∧
      r.2.sleeps = (List.range (k - 1)).map fun i =>
        .float (Backoff.pauseAt cfg.jitter t M (Binary.doublings d i))) ∧
    (rj.2 = rc.2 ∧ ∀ f, rc.1 = .error f → f.kind = .notFound → rj.1 = .error f) := by
  intro A d M e r rj rc
  have attempts : (policyOf o cfg).attempts = .int A := by
    rcases given with none | some
    · simp [policyOf, A, none, Value.truthy]
    · simp only [policyOf, A, some, Value.truthy]
      split <;> rfl
  have start : (policyOf o cfg).initialDelay = .float d := rfl
  have cap : (policyOf o cfg).longest = .float M := rfl
  obtain ⟨result, started, sleeps⟩ := taped_runCommand exits env (.float t) (words ws) o settings
  have ends := Backoff.replay_ends "_run" (Backoff.Schedule.ofFloats start cap rfl :
      Backoff.Schedule (policyOf o cfg) (@Backoff.recording Command.Completion (.float t))) attempts
    (exits.map (judged (words ws) o)) ⟨0, "", ""⟩
  have outcome (i : Nat) :
      (exits.map (judged (words ws) o)).getD i (.ok ⟨0, "", ""⟩) = judged (words ws) o (e i) := by
    rw [← judged_plain (words ws) o, List.getD_map]
  have json : words (ws ++ ["--output", "json"]) = words ws ++ [.str "--output", .str "json"] := by
    simp [words]
  refine ⟨?none, ?some, ?json⟩
  case json =>
    obtain ⟨same, passes⟩ := runJson_after (Shell.taped exits env (.float t)) (words ws) o {}
    simp only [rj, rc, json]
    exact ⟨same, fun f gave missing => passes f gave (by rw [missing]; rfl)⟩
  case none =>
    intro none
    obtain ⟨res, calls, slept⟩ := ends.1 none
    refine ⟨?_, by rw [started, calls]; rfl, by rw [sleeps, slept]⟩
    rw [result, res, Backoff.exhausted_int attempts]
    congr 2
  case some =>
    intro some
    obtain ⟨k, positive, within, retrying, stops, res, calls, slept⟩ := ends.2 some
    simp only [outcome] at retrying stops res
    refine ⟨k, positive, within, by rw [started, calls], ?_, ?_, by rw [sleeps, slept]; rfl⟩
    · intro i before
      exact (retriesOn_judged ws o cfg (e i)).mp (retrying i before)
    · rw [result, res]
      -- a transient last end is retried, so only the last attempt stops on it
      have lastAttempt (transient : Transient o (e (k - 1))) : (k : Int) = A :=
        stops.resolve_right (by rw [(retriesOn_judged ws o cfg _).mpr transient]; decide)
      rcases judged_cases ws o (e (k - 1)) with ⟨c, ended, plain, judge⟩ |
        ⟨c, shown, ended, code, check, missing, judge⟩ | ⟨c, ended, transient, judge⟩ | ⟨ended, judge⟩
      · exact .inl ⟨c, ended, plain, judge⟩
      · exact .inr (.inl ⟨c, shown, ended, code, check, missing, judge⟩)
      · have failed := transient
        rw [ended] at failed
        exact .inr (.inr (.inl ⟨lastAttempt transient, c, ended, failed.1, failed.2.1, failed.2.2, judge⟩))
      · exact .inr (.inr (.inr ⟨lastAttempt (by rw [ended]; trivial), ended, judge⟩))

/-- One attempt at a command whose process runs past its deadline: the command starts once. -/
theorem single_attempt_starts_once :
    ∃ cfg, RetrySettings.ofEnv [] = .ok cfg ∧
      ((runCommand (Shell.taped [.timedOut] [] (.float 0)) (words ["az", "vm", "list"])
        { attempts := .int 1 }).run.run {}).run.2.started = [(words ["az", "vm", "list"], .int 30)] := by
  obtain ⟨cfg, settings⟩ := Outcome.ok_of_isOk (by decide +kernel : (RetrySettings.ofEnv []).isOk = true)
  obtain ⟨k, positive, within, started, -⟩ :=
    (command_runs_classify_and_retry ["az", "vm", "list"] [.timedOut] [] 0 { attempts := .int 1 } settings
      (.inr rfl)).2.1 (by simp [Value.truthy])
  have one : k = 1 := by
    have : (k : Int) ≤ 1 := by simpa [Value.truthy] using within
    omega
  subst one
  exact ⟨cfg, settings, started⟩

/-- With a negative number of attempts a command never starts, even one whose process would
succeed: the run fails as misused. -/
theorem negative_attempts_start_nothing :
    ((runCommand (Shell.taped [] [] (.float 0)) (words ["az", "vm", "list"])
        { attempts := .int (-1) }).run.run {}).run =
      (.error (Fault.make .misuse "_run called with max_attempts=-1"), {}) := by
  obtain ⟨cfg, settings⟩ := Outcome.ok_of_isOk (by decide +kernel : (RetrySettings.ofEnv []).isOk = true)
  rw [runCommand_run _ _ _ settings]
  rfl

end AzCli

end DesktopPool
