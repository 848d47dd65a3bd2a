/-! Faults: why an operation stopped. A fault has a kind, a message, the kind of the fault that
caused it (when one fault is raised in answer to another) and, for failed processes, their
error output. Kinds form a hierarchy: `Kind.isA k c` says a handler for `c` catches `k`. -/
namespace DesktopPool

/-- The kinds of fault, from data errors through process and service failures to the
failures of a reconciliation pass. -/
inductive Kind where
  /-- A value of the right type but an unusable content. -/
  | badValue
  /-- An operation applied to a value of the wrong type. -/
  | wrongType
  /-- A number too large for the representation asked for. -/
  | overflow
  | divisionByZero
  /-- An operation used against its protocol (a counter of attempts below one, a lock
  released twice). -/
  | misuse
  | missingKey
  | missingAttribute
  /-- Operating-system faults: a timeout, a refused or reset connection, a file system refusal. -/
  | osFailure
  | timedOut
  | connection
  | connectionReset
  | fileExists
  | notADirectory
  | isADirectory
  | fileNotFound
  /-- Malformed JSON or TOML text. -/
  | jsonSyntax
  | tomlSyntax
  /-- A malformed TOML document seen by the layout-keeping reader, with its reason. -/
  | tomlLayout (reason : String)
  /-- A process that ran past its time, or that ended with a nonzero status. -/
  | processTimeout
  | processFailed
  /-- Faults of the cloud services behind a pool. -/
  | provider
  | compute
  | directory
  | hostName
  | readyTimeout
  /-- Faults of the command-line front of the cloud, a missing resource among them. -/
  | cli
  | notFound
  /-- Faults of a reconciliation pass. -/
  | reconcile
  | lockTimeout
  | cancelled
  | rebuild
  | hostCreation (step node : String)
  | slotProvisioning (step slot : String)
  | setupScript
  | config
  /-- Console faults: markup that does not close, and a table cell that is not text. -/
  | markup
  | notRenderable
  /-- Input nested deeper than a reader follows. -/
  | tooDeep
  /-- A wait whose clock no longer moves towards its deadline, which the program would keep up
  forever. -/
  | endless
  deriving DecidableEq, Repr, Inhabited

namespace Kind

def parents : Kind → List Kind
  | .timedOut | .connection | .fileExists | .notADirectory | .isADirectory | .fileNotFound =>
    [.osFailure]
  | .connectionReset => [.connection]
  | .jsonSyntax | .tomlSyntax | .tomlLayout _ => [.badValue]
  | .compute | .directory => [.provider]
  | .hostName => [.provider, .badValue]
  | .readyTimeout => [.directory]
  | .notFound => [.cli]
  | .lockTimeout | .cancelled => [.reconcile]
  | .tooDeep => [.misuse]
  | _ => []

/-- `k` is `c` or specialises it, through at most three steps (the depth of the hierarchy). -/
def isA (k c : Kind) : Bool :=
  k == c || (k.parents.any fun p => p == c || (p.parents.any fun q => q == c ||
    q.parents.any (· == c)))

end Kind

structure Fault where
  kind : Kind
  message : String
  cause : Option Kind := none
  /-- Error output of the failed process the fault stands for. -/
  stderr : Option String := none
  deriving Repr, Inhabited

namespace Fault

def make (kind : Kind) (message : String) : Fault := { kind, message }

/-- A fault raised while handling `c`. -/
def causedBy (kind : Kind) (message : String) (c : Fault) : Fault :=
  { kind, message, cause := some c.kind }

end Fault

abbrev Outcome (α : Type) := Except Fault α

def fail {α : Type} (kind : Kind) (message : String) : Outcome α := .error (Fault.make kind message)

end DesktopPool
