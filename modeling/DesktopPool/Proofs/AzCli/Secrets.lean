import Mathlib.Data.List.GetD
import DesktopPool.AzCli.Executor
import DesktopPool.Proofs.Value.Whole

/-! Secrets on the command line. The argument after a sensitive flag is a secret: masking hides
it, and so a command whose processes finish runs alike whatever its secret is, faults and retry
log lines included (`replacing_secret_runs_alike`). A process that runs past its deadline is
the exception: its fault quotes the command as it was given, and the retry log repeats it
(`timed_out_command_shows_secret`). -/
namespace DesktopPool

namespace Command

def isSensitive (a : Value) : Bool := sensitiveFlags.any a.isText

/-- Whether masking hides the argument at `i`: the one before it is a sensitive flag. -/
def hides (cmd : List Value) (i : Nat) : Bool := i ≥ 1 && isSensitive (cmd.getD (i - 1) .null)

theorem getElem?_mask (cmd : List Value) (j : Nat) :
    (mask cmd)[j]? = cmd[j]?.map fun a => if hides cmd j then .str "***" else a := by
  unfold mask hides isSensitive
  rw [List.getElem?_map, List.getElem?_zipIdx, Option.map_map, Nat.zero_add]
  rfl

/-- A secret of a command at `i`, and a value to put in its place: masking hides the position,
and neither value is itself a flag, which would hide the argument after it. -/
structure SecretAt (cmd : List Value) (i : Nat) (v : Value) : Prop where
  inside : i < cmd.length
  hidden : hides cmd i = true
  oldPlain : isSensitive (cmd.getD i .null) = false
  newPlain : isSensitive v = false

theorem SecretAt.append {cmd : List Value} {i : Nat} {v : Value} (s : SecretAt cmd i v)
    (rest : List Value) : SecretAt (cmd ++ rest) i v := by
  have inside := s.inside
  have hidden := s.hidden
  unfold hides at hidden
  refine ⟨by simp; omega, ?_, ?_, s.newPlain⟩
  · unfold hides
    rw [List.getD_append _ _ _ _ (by omega)]
    exact hidden
  · rw [List.getD_append _ _ _ _ s.inside]
    exact s.oldPlain

theorem hides_set {cmd : List Value} {i j : Nat} {v : Value} (inside : i < cmd.length)
    (plain : isSensitive v = isSensitive (cmd.getD i .null)) :
    hides (cmd.set i v) j = hides cmd j := by
  unfold hides
  rw [List.getD_eq_getElem?_getD, List.getD_eq_getElem?_getD, List.getElem?_set]
  split
  · next at_ => subst at_; simp [inside, plain, List.getD_eq_getElem?_getD]
  · rfl

/-- The masked form of a command does not depend on its secrets. -/
theorem mask_set {cmd : List Value} {i : Nat} {v : Value} (s : SecretAt cmd i v) :
    mask (cmd.set i v) = mask cmd := by
  apply List.ext_getElem?
  intro j
  have same : hides (cmd.set i v) j = hides cmd j :=
    hides_set s.inside (by rw [s.newPlain, s.oldPlain])
  rw [getElem?_mask, getElem?_mask, same, List.getElem?_set]
  -- only the secret's own position changed, and masking hides it either way
  by_cases at_ : i = j
  · subst at_
    simp [s.inside, s.hidden]
  · rw [if_neg at_]

end Command

namespace Text

theorem quoteFor_plain {s : String} (plain : apostrophe ∉ s.toList) : quoteFor s = apostrophe := by
  simp [quoteFor, String.contains_char_eq, plain]

end Text

namespace AzCli

variable {m : Type → Type} [Monad m] [LawfulMonad m]

/-- The processes of `sh` cannot tell the argument at `i` of `cmd` from `v`, and finish before
their deadline, whatever follows the command. -/
structure Blind (sh : Shell m) (cmd : List Value) (i : Nat) (v : Value) : Prop where
  same : ∀ rest t, sh.run ((cmd ++ rest).set i v) t = sh.run (cmd ++ rest) t
  finishes : ∀ rest t, ∃ r, sh.run (cmd ++ rest) t = Exit.finished <$> r

/-- A run judged by a finished process reads the command only in its masked form. -/
theorem once_masked {sh : Shell m} {cmd cmd' : List Value} {o : Options}
    (masked : Command.mask cmd' = Command.mask cmd)
    (same : sh.run cmd' o.timeout = sh.run cmd o.timeout)
    (finishes : ∃ r, sh.run cmd o.timeout = Exit.finished <$> r) :
    once sh cmd' o = once sh cmd o := by
  obtain ⟨r, finished⟩ := finishes
  unfold once
  rw [same, finished, masked]
  -- the branch that quotes the raw command is the timeout's, which a finished process skips
  simp only [bind_map_left]

theorem runCommand_masked {sh : Shell m} {cmd cmd' : List Value} {o : Options}
    (masked : Command.mask cmd' = Command.mask cmd)
    (same : sh.run cmd' o.timeout = sh.run cmd o.timeout)
    (finishes : ∃ r, sh.run cmd o.timeout = Exit.finished <$> r) :
    runCommand sh cmd' o = runCommand sh cmd o := by
  unfold runCommand
  rw [once_masked masked same finishes]

theorem runCommand_secret {sh : Shell m} {cmd : List Value} {i : Nat} {v : Value}
    (secret : Command.SecretAt cmd i v) (blind : Blind sh cmd i v) (rest : List Value) (o : Options) :
    runCommand sh (cmd.set i v ++ rest) o = runCommand sh (cmd ++ rest) o := by
  rw [← List.set_append_left i v secret.inside]
  exact runCommand_masked (Command.mask_set (secret.append rest)) (blind.same rest o.timeout)
    (blind.finishes rest o.timeout)

/-- Whatever the secret after a sensitive flag is, a command whose processes finish runs alike,
directly and as a JSON command: the same faults, the same retry log lines, the same answers. -/
theorem replacing_secret_runs_alike {sh : Shell m} {cmd : List Value} {i : Nat} {v : Value}
    (secret : Command.SecretAt cmd i v) (blind : Blind sh cmd i v) (o : Options) :
    runCommand sh (cmd.set i v) o = runCommand sh cmd o ∧
      runJson sh (cmd.set i v) o = runJson sh cmd o := by
  have direct := runCommand_secret secret blind [] o
  rw [List.append_nil, List.append_nil] at direct
  refine ⟨direct, ?_⟩
  -- a JSON command is the command with the output format appended, where the secret still is
  unfold runJson
  rw [runCommand_secret secret blind]

def Shell.always (exit : Exit) : Shell (StateM (List (LogLevel × String))) where
  run _ _ := pure exit
  sleep _ := pure (.ok ())
  clock := pure (.int 0)
  draw a _ := .ok a
  log level line := modify (· ++ [(level, line)])
  env := []

theorem admin_password_runs_alike :
    Command.SecretAt (words ["az", "vm", "create", "--admin-password", "hunter2"]) 4 (.str "swordfish") ∧
      Blind (Shell.always (.finished ⟨1, "", "denied"⟩))
        (words ["az", "vm", "create", "--admin-password", "hunter2"]) 4 (.str "swordfish") ∧
      (runCommand (Shell.always (.finished ⟨1, "", "denied"⟩))
          ((words ["az", "vm", "create", "--admin-password", "hunter2"]).set 4 (.str "swordfish")) {} =
        runCommand (Shell.always (.finished ⟨1, "", "denied"⟩))
          (words ["az", "vm", "create", "--admin-password", "hunter2"]) {} ∧
      runJson (Shell.always (.finished ⟨1, "", "denied"⟩))
          ((words ["az", "vm", "create", "--admin-password", "hunter2"]).set 4 (.str "swordfish")) {} =
        runJson (Shell.always (.finished ⟨1, "", "denied"⟩))
          (words ["az", "vm", "create", "--admin-password", "hunter2"]) {}) :=
  have secret : Command.SecretAt (words ["az", "vm", "create", "--admin-password", "hunter2"]) 4
      (.str "swordfish") := ⟨by decide, rfl, rfl, rfl⟩
  have blind : Blind (Shell.always (.finished ⟨1, "", "denied"⟩))
      (words ["az", "vm", "create", "--admin-password", "hunter2"]) 4 (.str "swordfish") :=
    ⟨fun _ _ => rfl, fun _ _ => ⟨pure ⟨1, "", "denied"⟩, (map_pure _ _).symm⟩⟩
  ⟨secret, blind, replacing_secret_runs_alike secret blind {}⟩

theorem runCommand_timedOut {sh : Shell m} {cmd : List Value} {o : Options} {cfg : RetrySettings}
    (settings : RetrySettings.ofEnv sh.env = .ok cfg) (late : sh.run cmd o.timeout = pure .timedOut)
    (single : o.attempts = .int 1) :
    (runCommand sh cmd o).run = (do
      sh.log .error ("_run failed after 1 attempts: " ++
        Secret.safeMessage (Command.timedOut cmd o.timeout).message none)
      pure (.error (Command.timedOut cmd o.timeout))) := by
  have judged : once sh cmd o = pure (.error (Command.timedOut cmd o.timeout)) := by
    unfold once
    rw [late, pure_bind]
  have truthy : (Value.int 1).truthy = true := rfl
  have kind : (Command.timedOut cmd o.timeout).kind = .processTimeout := rfl
  have output : (Command.timedOut cmd o.timeout).stderr = none := rfl
  have retried : Kind.processTimeout.isA .processTimeout = true := rfl
  have last : Relation.ge.holds .eq = true := rfl
  have shown : (Value.int 1).text = "1" := rfl
  unfold runCommand
  simp [settings, single, judged, truthy, ArithOp.onInts, Backoff.run, Backoff.loop, Backoff.retries,
    ExceptT.run_bind, kind, output, retried, last, shown]
  rfl

/-- A process past its deadline is the exception: its fault, and the log line of the last
attempt, quote the command with its secret. -/
theorem timed_out_command_shows_secret :
    (runCommand (Shell.always .timedOut) (words ["az", "vm", "create", "--admin-password", "hunter2"])
        { attempts := .int 1 }).run.run [] =
      (.error (Fault.make .processTimeout
        "Command '['az', 'vm', 'create', '--admin-password', 'hunter2']' timed out after 30 seconds"),
       [(.error, "_run failed after 1 attempts: Command '['az', 'vm', 'create', '--admin-password', 'hunter2']' timed out after 30 seconds")]) := by
  obtain ⟨cfg, settings⟩ := Outcome.ok_of_isOk (by decide +kernel : (RetrySettings.ofEnv []).isOk = true)
  have shown : (Value.list (words ["az", "vm", "create", "--admin-password", "hunter2"])).repr =
      "['az', 'vm', 'create', '--admin-password', 'hunter2']" := by
    simp (disch := decide +kernel) only [Value.repr, Value.reprList, words, List.map_cons, List.map_nil,
      Text.quote, Text.quoteFor_plain]
    decide +kernel
  have fault : Command.timedOut (words ["az", "vm", "create", "--admin-password", "hunter2"]) (.int 30) =
      Fault.make .processTimeout
        "Command '['az', 'vm', 'create', '--admin-password', 'hunter2']' timed out after 30 seconds" := by
    unfold Command.timedOut
    rw [shown]
    rfl
  have line : "_run failed after 1 attempts: " ++ Secret.safeMessage (Fault.make .processTimeout
      "Command '['az', 'vm', 'create', '--admin-password', 'hunter2']' timed out after 30 seconds").message none =
      "_run failed after 1 attempts: Command '['az', 'vm', 'create', '--admin-password', 'hunter2']' timed out after 30 seconds" := by
    decide +kernel
  rw [runCommand_timedOut settings rfl rfl, fault, line]
  rfl

end AzCli

end DesktopPool
