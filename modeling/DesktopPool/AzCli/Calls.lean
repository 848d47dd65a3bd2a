import DesktopPool.AzCli.Scripted

/-! Single operations of the executor and of the two services, run one after another against
a scripted `az` under one clock. Each operation is named by its target (`executor`, `compute`
or `directory`) and method, with keyword arguments. A node spec or a session host given as a
table is built first; then the arguments are bound to the operation's parameters as a call
binds them, so an unknown or missing argument is refused before anything runs. An operation
reports its result, the commands it started (with their deadlines) and the sleeps it made. -/
namespace DesktopPool

namespace AzCli

/-- The parameters of the operations: the name messages use, and each parameter with its
default. -/
def signatureOf (target method : String) : Option Signature :=
  let owner := match target with
    | "compute" => "AzureCliComputeProvider."
    | "directory" => "AzureCliSessionDirectory."
    | _ => ""
  let req := fun (p : String) => (p, (none : Option Value))
  let params : Option (List (String × Option Value)) := match target, method with
    | "executor", "run_az_command" =>
      some [req "cmd", ("timeout", some (.int 30)), ("max_attempts", some .null),
        ("check", some (.bool true)), ("poll", some (.bool false))]
    | "executor", "run_az_json" =>
      some [req "cmd", ("timeout", some (.int 30)), ("max_attempts", some .null), ("poll", some (.bool false))]
    | "compute", "create" => some [req "spec"]
    | "compute", "start" | "compute", "stop" | "compute", "delete" => some [req "node_id"]
    | "compute", "get" => some [req "node_id", ("include_state", some (.bool true))]
    | "compute", "list_all" => some [("name_prefix", some .null)]
    | "compute", "run_remote_script" => some [req "node_id", req "script", req "timeout", req "poll_interval"]
    | "directory", "list_hosts" => some [req "pool", ("poll", some (.bool false))]
    | "directory", "delete_host" | "directory", "parse_host_name" => some [req "host"]
    | "directory", "wait_for_ready" => some [req "pool", req "node_id", req "timeout"]
    | "directory", "list_app_groups" | "directory", "retrieve_registration_token" => some [req "pool"]
    | "directory", "delete_app_group" | "directory", "list_assignments" => some [req "name"]
    | "directory", "create_app_group" => some [req "pool", req "name", req "workload_id"]
    | "directory", "add_app_group_to_workspace" | "directory", "remove_app_group_from_workspace" =>
      some [req "workspace", req "name"]
    | "directory", "assign_principal" => some [req "name", req "principal_id", ("principal_type", some (.str "User"))]
    | _, _ => none
  params.map fun ps => ⟨owner ++ method, ps⟩

def noOperation (target method : String) : Fault :=
  let owner := match target with
    | "compute" => "AzureCliComputeProvider"
    | "directory" => "AzureCliSessionDirectory"
    | _ => target
  .make .missingAttribute s!"{Text.quote owner} object has no attribute {Text.quote method}"

/-- Arguments given as tables turned into the records they stand for: a node spec, a host. -/
def records (args : List (String × Value)) : Outcome (List (String × Value) × Option NodeSpec × Option SessionHost) := do
  let spec ← (args.lookup "spec").mapM NodeSpec.ofValue
  let host ← (args.lookup "host").mapM SessionHost.ofValue
  pure (args, spec, host)

def commandOf (v : Value) : Outcome (List Value) :=
  match v with
  | .list xs => .ok xs
  | _ => v.iterate

def unit (o : Outcome Unit) : Outcome Value := o.map fun _ => .null

def nodeView (n : ComputeNode) : Value := .table n.toTable

def dispatch (env : Env) (t : Value) (c : ComputeTarget) (d : DirectoryTarget) (target method : String)
    (spec : Option NodeSpec) (host : Option SessionHost) (a : List Value) : StateM Session (Outcome Value) := do
  let sh := Session.shell env t
  let arg := fun (i : Nat) => a.getD i .null
  let cs := computeService sh c
  let ds := directoryService sh d
  let host := host.getD { name := .null }
  match target, method with
  | "executor", "run_az_command" =>
    match commandOf (arg 0) with
    | .error e => pure (.error e)
    | .ok cmd =>
      let o : Options := { timeout := arg 1, attempts := arg 2, check := (arg 3).truthy, poll := (arg 4).truthy }
      let sh := { sh with run := Session.runAs (arg 0).str? }
      let r ← (runCommand sh cmd o).run
      pure (r.map fun c => .table [("returncode", .int c.code), ("stdout", .str c.stdout), ("stderr", .str c.stderr)])
  | "executor", "run_az_json" =>
    match commandOf (arg 0) with
    | .error _ => pure (fail .wrongType s!"Value after * must be an iterable, not {(arg 0).typeName}")
    | .ok cmd => (runJson sh cmd { timeout := arg 1, attempts := arg 2, poll := (arg 3).truthy }).run
  | "compute", "create" =>
    match spec with
    | some sp => do pure ((← cs.create sp).map nodeView)
    | none => pure (.error (missingArguments "AzureCliComputeProvider.create" ["spec"]))
  | "compute", "start" => do pure (unit (← cs.start (arg 0)))
  | "compute", "stop" => do pure (unit (← cs.stop (arg 0)))
  | "compute", "delete" => do pure (unit (← cs.delete (arg 0)))
  | "compute", "get" => do
    let r ← cs.get (arg 0) (arg 1).truthy
    pure (r.map fun n => (n.map nodeView).getD .null)
  | "compute", "list_all" => do pure ((← cs.listAll (arg 0)).map fun ns => .list (ns.map nodeView))
  | "compute", "run_remote_script" => do pure (unit (← cs.runScript (arg 0) (arg 1) (arg 2) (arg 3)))
  | "directory", "list_hosts" => do
    let r ← (Directory.listHostsPolled sh d (arg 0) (arg 1).truthy).run
    pure (r.map fun hs => .list (hs.map fun h => .table h.toTable))
  | "directory", "delete_host" => do pure (unit (← ds.deleteHost host))
  | "directory", "wait_for_ready" => do
    pure ((← ds.waitReady (arg 0) (arg 1) (arg 2)).map fun h => .table h.toTable)
  | "directory", "parse_host_name" =>
    pure (host.parts.map fun p =>
      .table [("pool", .str p.pool), ("display_name", .str p.display), ("node_id", .str p.node)])
  | "directory", "list_app_groups" => do
    pure ((← ds.listSlots (arg 0)).map fun gs => .list (gs.map fun g => .table g.toTable))
  | "directory", "delete_app_group" => do pure (unit (← ds.deleteSlot (arg 0)))
  | "directory", "create_app_group" => do
    pure ((← ds.createSlot (arg 0) (arg 1) (arg 2)).map fun g => .table g.toTable)
  | "directory", "add_app_group_to_workspace" => do pure (unit (← ds.publish (arg 0) (arg 1)))
  | "directory", "remove_app_group_from_workspace" => do pure (unit (← ds.unpublish (arg 0) (arg 1)))
  | "directory", "list_assignments" => do pure ((← ds.assignments (arg 0)).map .list)
  | "directory", "assign_principal" => do pure (unit (← ds.assign (arg 0) (arg 1) (arg 2)))
  | "directory", "retrieve_registration_token" => ds.registrationToken (arg 0)
  | _, _ => pure (.error (noOperation target method))

/-- Run one named operation: the records among its arguments are built first, then the
arguments are bound to the operation's parameters. -/
def perform (env : Env) (t : Value) (c : ComputeTarget) (d : DirectoryTarget) (target method : String)
    (args : Value) : StateM Session (Outcome Value) :=
  match signatureOf target method with
  | none => pure (.error (noOperation target method))
  | some sig =>
    let kvs := args.table?.getD []
    match records kvs with
    | .error e => pure (.error e)
    | .ok (kvs, spec, host) =>
      match sig.bind kvs with
      | .error e => pure (.error e)
      | .ok a => dispatch env t c d target method spec host a

def report (o : Outcome Value) (s : Session) : Outcome Value × Value × Value :=
  (o, .list (s.commands.map fun (cmd, t) => .table [("cmd", .list cmd), ("timeout", t)]),
    .list s.sleeps)

def performAll (env : Env) (t : Value) (c : ComputeTarget) (d : DirectoryTarget) :
    List Value → StateM Session (List (Outcome Value × Value × Value))
  | [] => pure []
  | call :: rest => do
    modify fun s => { s with commands := [], sleeps := [] }
    let o ← perform env t c d (call.getD "target" .null).text (call.getD "method" .null).text
      (call.getD "args" (.table []))
    let rep := report o (← get)
    pure (rep :: (← performAll env t c d rest))

/-- Run operations against the scripted `az`: settings over a default resource group, the
rules, and the operations in order. Building the two services may fail first. -/
def runCalls (settings : Value) (env : Env) (rules calls : List Value) (t : Value) :
    Outcome (List (Outcome Value × Value × Value)) := do
  let s ← Settings.ofValue (Settings.overlay (.table [("resource_group", .str "avd-rg")]) settings)
  let c ← ComputeTarget.ofSettings s
  let d ← DirectoryTarget.ofSettings s
  pure ((performAll env t c d calls).run { rules := rules.map Rule.ofValue }).1

end AzCli

end DesktopPool
