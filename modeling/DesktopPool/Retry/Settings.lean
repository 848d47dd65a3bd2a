import DesktopPool.Value.Number

/-! Retry settings of cloud commands, read from the environment. Plain commands and status
polls each have a number of attempts, a first delay and a longest delay; jitter is on unless
the environment says otherwise. A command setting falls back to the general setting, which falls
back to the default; attempts are read as whole numbers and delays as decimals, and a value that
does not read is a `badValue` fault. Variables are read in a fixed order, so the first bad one
is reported. -/
namespace DesktopPool

/-- Environment variables, first binding of a name wins. -/
abbrev Env := List (String × String)

def Env.get? (env : Env) (name : String) : Option String := env.lookup name

/-- A variable whose name is a value: names must be text. -/
def Env.find (env : Env) (name : Value) : Outcome (Option String) :=
  match name with
  | .str s => .ok (env.get? s)
  | _ => fail .wrongType s!"str expected, not {name.typeName}"

structure RetrySettings where
  cliAttempts : Int := 3
  cliInitialDelay : Float := 1.0
  cliMaxDelay : Float := 30.0
  pollAttempts : Int := 2
  pollInitialDelay : Float := 1.0
  pollMaxDelay : Float := 5.0
  jitter : Bool := true
  deriving Inhabited

namespace RetrySettings

def wholeVar (env : Env) (name dflt : String) : Outcome Int :=
  (Value.str ((env.get? name).getD dflt)).toWhole

def decimalVar (env : Env) (name dflt : String) : Outcome Float :=
  (Value.str ((env.get? name).getD dflt)).toDouble

def ofEnv (env : Env) : Outcome RetrySettings := do
  let attempts ← wholeVar env "AVDPOOL_RETRY_MAX_ATTEMPTS" "3"
  let initial ← decimalVar env "AVDPOOL_RETRY_INITIAL_DELAY" "1.0"
  let longest ← decimalVar env "AVDPOOL_RETRY_MAX_DELAY" "30.0"
  let jitter := Unicode.lower ((env.get? "AVDPOOL_RETRY_JITTER_ENABLED").getD "true") == "true"
  let cliAttempts ← wholeVar env "AVDPOOL_RETRY_AZURE_CLI_MAX_ATTEMPTS" (toString attempts)
  let cliInitialDelay ← decimalVar env "AVDPOOL_RETRY_AZURE_CLI_INITIAL_DELAY" (FloatText.render initial)
  let cliMaxDelay ← decimalVar env "AVDPOOL_RETRY_AZURE_CLI_MAX_DELAY" (FloatText.render longest)
  let pollAttempts ← wholeVar env "AVDPOOL_RETRY_POLL_MAX_ATTEMPTS" "2"
  let pollInitialDelay ← decimalVar env "AVDPOOL_RETRY_POLL_INITIAL_DELAY" "1.0"
  let pollMaxDelay ← decimalVar env "AVDPOOL_RETRY_POLL_MAX_DELAY" "5.0"
  pure { cliAttempts, cliInitialDelay, cliMaxDelay, pollAttempts, pollInitialDelay, pollMaxDelay, jitter }

def toTable (r : RetrySettings) : List (String × Value) :=
  [("azure_cli_max_attempts", .int r.cliAttempts), ("azure_cli_initial_delay", .float r.cliInitialDelay),
    ("azure_cli_max_delay", .float r.cliMaxDelay), ("poll_max_attempts", .int r.pollAttempts),
    ("poll_initial_delay", .float r.pollInitialDelay), ("poll_max_delay", .float r.pollMaxDelay),
    ("jitter_enabled", .bool r.jitter)]

end RetrySettings

end DesktopPool
