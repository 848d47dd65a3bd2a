import DesktopPool.Value.Equal
import DesktopPool.Value.Keywords
import DesktopPool.Host.Name

/-! Session host records as a directory reports them. A record is observed, never changed by a
pass; its fields are kept as the directory gave them. A host is up when its status is the text
`Available` and asleep when it is the text `Shutdown`. -/
namespace DesktopPool

structure SessionHost where
  name : Value
  status : Value := .null
  resourceId : Value := .null
  sessions : Value := .int 0
  updateError : Value := .null
  deriving Inhabited

namespace SessionHost

def isAvailable (h : SessionHost) : Bool := h.status.isText "Available"

def isShutdown (h : SessionHost) : Bool := h.status.isText "Shutdown"

/-- The name split into pool, host part and node id. -/
def parts (h : SessionHost) : Outcome HostName := HostName.parseValue h.name

def toTable (h : SessionHost) : List (String × Value) :=
  [("name", h.name), ("status", h.status), ("resource_id", h.resourceId),
    ("sessions", h.sessions), ("update_error", h.updateError)]

def signature : Signature :=
  ⟨"SessionHost.__init__", [("name", none), ("status", some .null), ("resource_id", some .null),
    ("sessions", some (.int 0)), ("update_error", some .null)]⟩

/-- A record from a table of named fields; only the name is needed. -/
def ofValue (v : Value) : Outcome SessionHost := do
  let kvs ← match v with
    | .table kvs => pure kvs
    | _ => fail .wrongType s!"avdpool.models.SessionHost() argument after ** must be a mapping, not {v.typeName}"
  match ← signature.bind kvs with
  | [name, status, resourceId, sessions, updateError] => pure { name, status, resourceId, sessions, updateError }
  | _ => fail .wrongType "SessionHost.__init__() takes 5 arguments"

end SessionHost

end DesktopPool
