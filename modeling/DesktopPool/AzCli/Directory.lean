import DesktopPool.AzCli.Executor
import DesktopPool.Service
import DesktopPool.Config.Settings
import DesktopPool.Value.Access

/-! The host pool directory over `az desktopvirtualization`. Session hosts are listed per pool;
a host counts as ready when a listing shows it `Available` (its node id compared without case),
polled until a deadline. Slots are application groups whose host pool path ends in the pool's
path (without case); a slot's workload is its `vmid` tag, or else what its name holds between
the configured prefix and suffix. Workspaces publish slots by reference; assignments are role
assignments of the desktop user role on a slot. An expired or missing registration token is
renewed for a day. Records that are already gone count as deleted. Pools, names and ids go
into the commands as they were given; messages show them as text. -/
namespace DesktopPool

namespace AzCli

/-- Where slots and hosts live, and how slot names are made. -/
structure DirectoryTarget where
  resourceGroup : Value
  slotPrefix : Value
  slotSuffix : Value
  pollInterval : Value
  location : Value

def DirectoryTarget.ofSettings (s : Settings) : Outcome DirectoryTarget :=
  let rg := s.resourceGroup.orElse (.str "")
  if !rg.truthy then fail .directory "resource_group is required"
  else .ok ⟨rg, s.appGroupPrefix, s.slotSuffix, s.timeouts.readyPoll, s.location⟩

def workloadTag : String := "vmid"

def createdBy : String := "created-by=avdpool: workload events"

def userRole : String := "Desktop Virtualization User"

/-- When a token is renewed: a day after the clock of the directory's calls. -/
def renewedExpiry : String := "2024-01-02T00:00:00Z"

def hostOf (item : Value) : Outcome SessionHost := do
  pure { name := ← item.entryD "name" (.str ""), status := (← item.entry "status").orElse .null,
         resourceId := ← item.entry "resourceId", sessions := (← item.entry "sessions").orElse (.int 0),
         updateError := (← item.entry "updateErrorMessage").orElse .null }

/-- The lower-cased node id of a host: none when its name does not parse, and the fault of any
other failure. -/
def nodeIdOf (h : SessionHost) : Outcome (Option String) :=
  match h.parts with
  | .ok p => .ok (some (Unicode.lower p.node))
  | .error e => if e.kind.isA .badValue then .ok none else .error e

/-- The text strictly between a prefix and a suffix of a name that has both. -/
def between (pre suf name : String) : Option String :=
  let inner := (name.toList.drop pre.length).take (name.length - pre.length - suf.length)
  if name.length < pre.length + suf.length || inner.isEmpty then none else some (String.ofList inner)

/-- The workload of an application group entry: its tag, or what its name holds between the
slot prefix and suffix (the suffix is tested only on names with the prefix). -/
def workloadOf (t : DirectoryTarget) (item : Value) : Outcome Value := do
  let tags := (← item.entry "tags").orElse (.table [])
  let tagged ← tags.entry workloadTag
  if tagged.truthy then return tagged
  let name := (← item.entry "name").orElse (.str "")
  if !(← name.startsWith t.slotPrefix) then return .null
  if !(← name.endsWith t.slotSuffix) then return .null
  match name, t.slotPrefix, t.slotSuffix with
  | .str n, .str pre, .str suf => pure (((between pre suf n).map Value.str).getD .null)
  | _, _, _ => pure .null

/-- The first available host of node `wanted` in a listing, in order, or else the status of the
last host of that node seen. -/
def scan (wanted : String) : List SessionHost → Value → Outcome (SessionHost ⊕ Value)
  | [], last => .ok (.inr last)
  | h :: hs, last => do
    if (← nodeIdOf h) != some wanted then scan wanted hs last
    else if h.isAvailable then pure (.inl h)
    else scan wanted hs h.status

variable {m : Type → Type} [Monad m]

namespace Directory

def lift {α : Type} (o : Outcome α) : Az m α := ExceptT.mk (pure o)

def json (sh : Shell m) (cmd : List Value) (operation : String) (poll : Bool) : Az m Value :=
  tryCatch (runJson sh cmd { timeout := .int 60, poll }) fun e =>
    if e.kind.isA .cli then throw (.causedBy .directory s!"Failed to {operation}: {e.message}" e)
    else throw e

def listHostsPolled (sh : Shell m) (t : DirectoryTarget) (pool : Value) (poll : Bool) :
    Az m (List SessionHost) := do
  let data ← json sh (words ["az", "desktopvirtualization", "sessionhost", "list", "--host-pool-name"] ++
    [pool, .str "--resource-group", t.resourceGroup]) s!"list session hosts of {pool.text}" poll
  lift ((← lift data.items).mapM hostOf)

def deleteHost (sh : Shell m) (t : DirectoryTarget) (h : SessionHost) : Az m Unit := do
  let parts ← lift h.parts
  tryCatch (do
    let _ ← runJson sh (words ["az", "desktopvirtualization", "sessionhost", "delete", "--host-pool-name",
      parts.pool, "--name", parts.display, "--resource-group"] ++ [t.resourceGroup] ++
      words ["--force", "true", "--yes"]) {})
    fun e =>
      if e.kind == .notFound then pure ()
      else if e.kind.isA .cli then
        throw (.causedBy .directory s!"Failed to delete session host {h.name.text}: {e.message}" e)
      else throw e

/-- One poll of the pool for the host of node `wanted`: the host if the listing shows it
available, or else the status of the last host of that node seen so far. -/
def readyRound (sh : Shell m) (t : DirectoryTarget) (pool : Value) (wanted : String) (last : Value) :
    Az m (SessionHost ⊕ Value) := do
  let hosts ← listHostsPolled sh t pool true
  lift (scan wanted hosts last)

/-- Poll the pool until the host of `id` (lower-cased `wanted`) is available or `deadline`
passes. -/
def awaitReady (sh : Shell m) (t : DirectoryTarget) (pool id : Value) (wanted : String)
    (timeout deadline : Value) : Nat → Value → Az m SessionHost :=
  pollUntil sh t.pollInterval deadline (readyRound sh t pool wanted)
    (fun last => do
      let shown ← lift (timeout.fixedText 0)
      let seen := (last.orElse (.str "not registered")).text
      lift (fail .readyTimeout s!"Session host {id.text} in pool {pool.text} not Available after {shown}s (last status: {seen})"))
    (lift (fail .endless s!"Waiting for session host {id.text} in pool {pool.text} never ends"))

def waitReady (sh : Shell m) (t : DirectoryTarget) (pool id timeout : Value) : Az m SessionHost := do
  let deadline ← lift ((← (sh.clock : m Value)).arith .add timeout)
  let wanted ← lift id.lower
  awaitReady sh t pool id wanted timeout deadline pollRounds .null

def listSlots (sh : Shell m) (t : DirectoryTarget) (pool : Value) : Az m (List AppGroup) := do
  let data ← json sh (words ["az", "desktopvirtualization", "applicationgroup", "list", "--resource-group"] ++
    [t.resourceGroup]) s!"list application groups of {pool.text}" false
  let suffix := Unicode.lower s!"/hostpools/{pool.text}"
  let items ← lift data.items
  items.filterMapM fun item => do
    let path ← lift ((← lift (item.entry "hostPoolArmPath")).orElse (.str "")).lower
    if !path.endsWith suffix then return none
    let name ← lift (item.entryD "name" (.str ""))
    let rid ← lift (item.entry "id")
    let w ← lift (workloadOf t item)
    pure (some { name, resourceId := rid, workloadId := w })

def deleteSlot (sh : Shell m) (t : DirectoryTarget) (name : Value) : Az m Unit :=
  tryCatch (do
    let _ ← runJson sh (words ["az", "desktopvirtualization", "applicationgroup", "delete", "--name"] ++
      [name, .str "--resource-group", t.resourceGroup, .str "--yes"]) {})
    fun e =>
      if e.kind == .notFound then pure ()
      else if e.kind.isA .cli then
        throw (.causedBy .directory s!"Failed to delete application group {name.text}: {e.message}" e)
      else throw e

def createSlot (sh : Shell m) (t : DirectoryTarget) (pool name workload : Value) : Az m AppGroup := do
  let hostPool ← json sh (words ["az", "desktopvirtualization", "hostpool", "show", "--name"] ++
    [pool, .str "--resource-group", t.resourceGroup]) s!"show host pool {pool.text}" false
  let poolId ← lift (hostPool.entryOrEmpty "id")
  if !poolId.truthy then lift (fail .directory s!"Host pool {pool.text} has no resource ID")
  let cmd := words ["az", "desktopvirtualization", "applicationgroup", "create", "--name"] ++
    [name, .str "--resource-group", t.resourceGroup, .str "--application-group-type", .str "RemoteApp",
      .str "--host-pool-arm-path", poolId, .str "--tags", .str (workloadTag ++ "=" ++ workload.text),
      .str createdBy]
  let cmd := if t.location.truthy then cmd ++ [.str "--location", t.location] else cmd
  let data := (← json sh cmd s!"create application group {name.text}" false).orElse (.table [])
  pure { name := ← lift (data.entryD "name" name), resourceId := ← lift (data.entry "id"),
         workloadId := workload }

def slotId (sh : Shell m) (t : DirectoryTarget) (name : Value) : Az m Value := do
  let group ← json sh (words ["az", "desktopvirtualization", "applicationgroup", "show", "--name"] ++
    [name, .str "--resource-group", t.resourceGroup]) s!"show application group {name.text}" false
  let id ← lift (group.entryOrEmpty "id")
  if !id.truthy then lift (fail .directory s!"Application group {name.text} has no resource ID")
  pure id

/-- The slot references of a workspace; a missing workspace stays `notFound`. -/
def references (sh : Shell m) (t : DirectoryTarget) (workspace : Value) : Az m (List Value) := do
  let data ← tryCatch (runJson sh (words ["az", "desktopvirtualization", "workspace", "show", "--name"] ++
      [workspace, .str "--resource-group", t.resourceGroup]) { timeout := .int 60 }) fun e =>
    if e.kind == .notFound then throw e
    else if e.kind.isA .cli then
      throw (.causedBy .directory s!"Failed to show workspace {workspace.text}: {e.message}" e)
    else throw e
  lift (← lift (data.entryOrEmpty "applicationGroupReferences")).items

def setReferences (sh : Shell m) (t : DirectoryTarget) (workspace : Value) (refs : List Value) :
    Az m Unit := do
  let shown := if refs.isEmpty then [.str "[]"] else refs
  let _ ← json sh (words ["az", "desktopvirtualization", "workspace", "update", "--name"] ++
    [workspace, .str "--resource-group", t.resourceGroup, .str "--application-group-references"] ++ shown)
    s!"update workspace {workspace.text}" false

def publish (sh : Shell m) (t : DirectoryTarget) (workspace name : Value) : Az m Unit := do
  let id ← slotId sh t name
  let refs ← tryCatch (references sh t workspace) fun e =>
    if e.kind == .notFound then throw (.causedBy .directory s!"Workspace {workspace.text} not found" e)
    else throw e
  let present ← lift (refs.anyM fun r => do pure ((← r.lower) == (← id.lower)))
  if present then return
  setReferences sh t workspace (refs ++ [id])

def unpublish (sh : Shell m) (t : DirectoryTarget) (workspace name : Value) : Az m Unit := do
  let refs? ← tryCatch (do pure (some (← references sh t workspace))) fun e =>
    if e.kind == .notFound then pure none else throw e
  let some refs := refs? | return
  let suffix := Unicode.lower s!"/applicationgroups/{name.text}"
  let kept ← lift (refs.filterM fun r => do pure !((← r.lower).endsWith suffix))
  if kept.length == refs.length then return
  setReferences sh t workspace kept

def assignments (sh : Shell m) (t : DirectoryTarget) (name : Value) : Az m (List Value) := do
  let scope ← slotId sh t name
  let data ← json sh (words ["az", "role", "assignment", "list", "--scope"] ++ [scope])
    s!"list assignments of {name.text}" false
  let items ← lift data.items
  items.filterMapM fun item => do
    let p ← lift (item.entry "principalId")
    if p.truthy then pure (some p) else pure none

def assign (sh : Shell m) (t : DirectoryTarget) (name principal kind : Value) : Az m Unit := do
  let scope ← slotId sh t name
  tryCatch (do
    let _ ← runJson sh (words ["az", "role", "assignment", "create", "--assignee-object-id"] ++
      [principal, .str "--assignee-principal-type", kind, .str "--role", .str userRole, .str "--scope", scope])
      { timeout := .int 60 })
    fun e =>
      if e.kind.isA .cli then
        let msg := e.message
        if Text.occursIn "RoleAssignmentExists" msg || Text.occursIn "already exists" msg then pure ()
        else
          throw (.causedBy .directory s!"Failed to assign {kind.text} {principal.text} to {name.text}: {msg}" e)
      else throw e

def registrationToken (sh : Shell m) (t : DirectoryTarget) (pool : Value) : Az m Value := do
  let data ← json sh (words ["az", "desktopvirtualization", "hostpool", "retrieve-registration-token",
    "--name"] ++ [pool, .str "--resource-group", t.resourceGroup])
    s!"retrieve registration token of {pool.text}" false
  let token ← lift (data.entryOrEmpty "token")
  if token.truthy then return token
  let data ← json sh (words ["az", "desktopvirtualization", "hostpool", "update", "--name"] ++
    [pool, .str "--resource-group", t.resourceGroup, .str "--registration-info",
      .str ("expiration-time=" ++ renewedExpiry), .str "registration-token-operation=Update"])
    s!"renew registration token of {pool.text}" false
  let info := (← lift (data.entryOrEmpty "registrationInfo")).orElse (.table [])
  let token ← lift (info.entry "token")
  if !token.truthy then lift (fail .directory s!"Host pool {pool.text} returned no registration token")
  pure token

end Directory

def directoryService (sh : Shell m) (t : DirectoryTarget) : DirectoryService m where
  listHosts := fun pool => (Directory.listHostsPolled sh t pool false).run
  deleteHost := fun h => (Directory.deleteHost sh t h).run
  waitReady := fun pool id timeout => (Directory.waitReady sh t pool id timeout).run
  listSlots := fun pool => (Directory.listSlots sh t pool).run
  createSlot := fun pool name w => (Directory.createSlot sh t pool name w).run
  deleteSlot := fun name => (Directory.deleteSlot sh t name).run
  publish := fun ws name => (Directory.publish sh t ws name).run
  unpublish := fun ws name => (Directory.unpublish sh t ws name).run
  assignments := fun name => (Directory.assignments sh t name).run
  assign := fun name p kind => (Directory.assign sh t name p kind).run
  registrationToken := fun pool => (Directory.registrationToken sh t pool).run

end AzCli

end DesktopPool
