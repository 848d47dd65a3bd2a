import DesktopPool.Config.Sections

/-! The settings of one pool manager: names and places in the cloud, slot naming, parallelism,
the orphan sweep, and the four sections. Settings are read from a table whose missing entries
take defaults and whose unknown top-level entries are ignored; the sections are built in order
(scaling, waits, template, setup) and the worker count must be positive. The table view leaves
out null entries at every level of nested tables. -/
namespace DesktopPool

structure Settings where
  name : Value := .str "default"
  resourceGroup : Value := .null
  location : Value := .str "eastus"
  subnetId : Value := .null
  appGroupPrefix : Value := .str ""
  slotSuffix : Value := .str "-linux-avd"
  workspacePrefix : Value := .str ""
  usersGroupId : Value := .null
  maxWorkers : Value := .int 8
  sweepOrphans : Value := .bool true
  scaling : Scaling := {}
  timeouts : Timeouts := {}
  template : HostTemplate := {}
  setup : SetupOptions := {}
  deriving Inhabited

mutual
/-- A value without the null entries of its tables, at every depth of nested tables. -/
def Value.dropNulls : Value → Value
  | .table kvs => .table (Value.dropNullEntries kvs)
  | v => v

def Value.dropNullEntries : List (String × Value) → List (String × Value)
  | [] => []
  | (k, v) :: rest =>
    if v.isNull then Value.dropNullEntries rest else (k, v.dropNulls) :: Value.dropNullEntries rest
end

namespace Settings

def checkWorkers (s : Settings) : Outcome Settings := do
  if ← s.maxWorkers.relate .le (.int 0) then fail .badValue "max_workers must be positive"
  else pure s

/-- Settings from a table; see the module note for the order of checks. -/
def ofValue (data : Value) : Outcome Settings :=
  match data with
  | .table _ => do
    let d : Settings := {}
    let get := fun key dflt => data.getD key dflt
    let scaling ← Scaling.ofValue (get "scaling" (.table []))
    let timeouts ← Timeouts.ofValue (get "timeouts" (.table []))
    let template ← HostTemplate.ofValue (get "host_template" (.table []))
    let setup ← SetupOptions.ofValue (get "setup_script" (.table []))
    checkWorkers {
      name := get "name" d.name
      resourceGroup := get "resource_group" d.resourceGroup
      location := get "location" d.location
      subnetId := get "subnet_id" d.subnetId
      appGroupPrefix := get "app_group_prefix" d.appGroupPrefix
      slotSuffix := get "slot_suffix" d.slotSuffix
      workspacePrefix := get "workspace_prefix" d.workspacePrefix
      usersGroupId := get "users_group_id" d.usersGroupId
      maxWorkers := get "max_workers" d.maxWorkers
      sweepOrphans := get "sweep_orphaned_nodes" d.sweepOrphans
      scaling, timeouts, template, setup }
  | _ => fail .missingAttribute s!"{Text.quote data.typeName} object has no attribute 'get'"

def toTable (s : Settings) : List (String × Value) :=
  [("name", s.name), ("resource_group", s.resourceGroup), ("location", s.location),
    ("subnet_id", s.subnetId), ("app_group_prefix", s.appGroupPrefix),
    ("slot_suffix", s.slotSuffix), ("workspace_prefix", s.workspacePrefix),
    ("users_group_id", s.usersGroupId), ("max_workers", s.maxWorkers),
    ("sweep_orphaned_nodes", s.sweepOrphans), ("scaling", .table s.scaling.toTable),
    ("timeouts", .table s.timeouts.toTable), ("host_template", .table s.template.toTable),
    ("setup_script", .table s.setup.toTable)]

def toValue (s : Settings) : Value := (Value.table s.toTable).dropNulls

/-- The four sections, which an overlay merges entry by entry. -/
def sections : List String := ["scaling", "timeouts", "host_template", "setup_script"]

/-- `top` laid over `base`: top-level entries replace those of `base`, and a section given in
both as a table is merged entry by entry. -/
def overlay (base top : Value) : Value :=
  match base, top with
  | .table b, .table o =>
    .table (o.foldl (fun acc (k, v) =>
      let merged := match acc.lookup k, v with
        | some (.table x), .table y =>
          if sections.contains k then .table (y.foldl (fun t (k2, v2) => Table.set t k2 v2) x) else v
        | _, _ => v
      Table.set acc k merged) b)
  | _, _ => top

/-- The slot (application group) of a workload: prefix, workload id, suffix. -/
def slotName (s : Settings) (workload : Value) : String :=
  s.appGroupPrefix.text ++ workload.text ++ s.slotSuffix.text

def workspaceName (s : Settings) (pool : Value) : String := s.workspacePrefix.text ++ pool.text

end Settings

end DesktopPool
