import DesktopPool.Value.Text
import DesktopPool.Value.Equal

/-! Processes of the cloud command line: argument lists, their masked form, the outcome of a
run, and the faults of a run that timed out or ended with a nonzero status. Arguments are
dynamic values, kept as the caller gave them: messages show the list in its quoted form.
Masking replaces the argument after each sensitive flag of the original list with `***`; error
output means a missing resource when it holds one of the not-found markers, compared
case-sensitively. -/
namespace DesktopPool.Command

/-- Flags whose next argument is a secret. -/
def sensitiveFlags : List String := ["--admin-password", "--password", "--registration-token", "--script"]

/-- Texts in error output that mean the addressed resource does not exist. -/
def notFoundMarkers : List String := ["ResourceNotFound", "NotFound", "was not found", "could not be found"]

/-- Each argument that follows a sensitive flag in `cmd` becomes `***`. -/
def mask (cmd : List Value) : List Value :=
  cmd.zipIdx.map fun (a, i) =>
    if i ≥ 1 && sensitiveFlags.any (fun f => (cmd.getD (i - 1) .null).isText f) then .str "***" else a

def joined (args : List Value) : Outcome String := do
  let texts ← args.zipIdx.mapM fun (a, i) => match a with
    | .str s => pure s
    | _ => fail .wrongType s!"sequence item {i}: expected str instance, {a.typeName} found"
  pure (" ".intercalate texts)

def isNotFound (stderr : String) : Bool :=
  notFoundMarkers.any fun m => (stderr.splitOn m).length > 1

structure Completion where
  code : Int
  stdout : String
  stderr : String
  deriving Inhabited

/-- Signal names by number. -/
def signalName (n : Nat) : Option String :=
  let names := ["SIGHUP", "SIGINT", "SIGQUIT", "SIGILL", "SIGTRAP", "SIGABRT", "SIGBUS", "SIGFPE",
    "SIGKILL", "SIGUSR1", "SIGSEGV", "SIGUSR2", "SIGPIPE", "SIGALRM", "SIGTERM", "SIGSTKFLT",
    "SIGCHLD", "SIGCONT", "SIGSTOP", "SIGTSTP", "SIGTTIN", "SIGTTOU", "SIGURG", "SIGXCPU",
    "SIGXFSZ", "SIGVTALRM", "SIGPROF", "SIGWINCH", "SIGIO", "SIGPWR", "SIGSYS"]
  if n == 34 then some "SIGRTMIN"
  else if n == 64 then some "SIGRTMAX"
  else if 1 ≤ n ∧ n ≤ 31 then names[n - 1]?
  else none

def timedOut (cmd : List Value) (timeout : Value) : Fault :=
  .make .processTimeout s!"Command '{(Value.list cmd).repr}' timed out after {timeout.text} seconds"

/-- The fault of a process that ended with status `code`; a negative status is a signal. -/
def failed (cmd : List Value) (code : Int) (stderr : Option String) : Fault :=
  let shown := (Value.list cmd).repr
  let message :=
    if code < 0 then
      match signalName code.natAbs with
      | some s => s!"Command '{shown}' died with <Signals.{s}: {code.natAbs}>."
      | none => s!"Command '{shown}' died with unknown signal {code.natAbs}."
    else s!"Command '{shown}' returned non-zero exit status {code}."
  { kind := .processFailed, message, stderr }

end DesktopPool.Command
