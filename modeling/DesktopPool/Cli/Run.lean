import DesktopPool.Cli.Grammar
import DesktopPool.Cli.Table
import DesktopPool.Config.Store
import DesktopPool.AzCli.Scripted
import DesktopPool.Pass.Events
import DesktopPool.Toml.Fresh

/-! The command line of the tool: `ensure-capacity`, `rebuild-reservations`, `notify`, `plan`,
`status`, and `config show` and `config init`, under the options `--config PATH`,
`-v`/`--verbose` and `--version`.

A command line that does not read is refused with `Error: ` and the complaint on the error
stream; the help of the level it was refused at follows on the output stream, and the status
is 2 (1 for an unknown command). A level with subcommands called without any word shows its
help as the complaint; at the top, where nothing is run yet, the help alone is shown. Help and
version flags print and end with status 0.

A command that fails for a reason it expects (a configuration, provider, pass, rebuild or slot
fault; `plan` also any bad value) prints `Error: ` and the reason on the output stream and ends
with status 1. Any other fault ends the run with status 1 and is reported as the fault it is.
Output goes through the console at a width of 200 cells. -/
namespace DesktopPool.Cli

def width : Nat := 200

def version : String := "0.1.0"

/-- What a run of the tool leaves: its status, its output and error streams, whether it showed
usage or help, and the fault that ended it when nothing handled it. -/
structure Transcript where
  status : Nat := 0
  stdout : String := ""
  stderr : String := ""
  helpShown : Bool := false
  crash : Option Fault := none

/-! ## Levels -/

def rootParams : List Param :=
  [.opt { key := "config", names := ["--config"] },
   .opt { key := "verbose", names := ["--verbose", "-v"], flag := true, default := .bool false },
   .opt { key := "version", names := ["--version"], flag := true, eager := true },
   .opt helpOpt]

def poolOpt : Opt := { key := "pool", names := ["--pool"], required := true }

def eventNames : List String := WorkloadEvent.all.map WorkloadEvent.name

def paramsOf : String → List Param
  | "ensure-capacity" | "rebuild-reservations" | "status" => [.opt poolOpt, .opt helpOpt]
  | "notify" =>
    [.arg { key := "event", form := .choice eventNames }, .opt poolOpt,
     .opt { key := "workload_id", names := ["--workload-id"], required := true },
     .opt { key := "user_id", names := ["--user-id"] }, .opt helpOpt]
  | "plan" =>
    [.opt { key := "reservations", names := ["--reservations"], form := .integer, required := true },
     .opt { key := "current", names := ["--current"], form := .integer, default := .int 0 },
     .opt { key := "max_sessions", names := ["--max-sessions"], form := .integer },
     .opt { key := "min_hosts", names := ["--min-hosts"], form := .integer },
     .opt { key := "max_hosts", names := ["--max-hosts"], form := .integer }, .opt helpOpt]
  | "init" =>
    [.opt { key := "resource_group", names := ["--resource-group", "--rg"] },
     .opt { key := "location", names := ["--location"] },
     .opt { key := "force", names := ["--force"], flag := true, default := .bool false }, .opt helpOpt]
  | _ => [.opt helpOpt]

/-- The commands of the top level and of `config`, with what each does. -/
def topCommands : List (String × String) :=
  [("config", "Inspect or create the avdpool configuration file."),
   ("ensure-capacity", "Run one capacity reconciliation pass for a pool."),
   ("notify", "Report a workload lifecycle event and reconcile the pool."),
   ("plan", "Preview the target host count for a reservation count."),
   ("rebuild-reservations", "Rebuild the reservation set of a pool from its application groups."),
   ("status", "Show the session hosts of a pool and how a pass would classify them.")]

def configCommands : List (String × String) :=
  [("init", "Write a configuration file with default settings."),
   ("show", "Print the effective configuration as TOML.")]

def helpText (path : String) (nested : Bool) (about : String) (commands : List (String × String)) :
    String :=
  let usage := "Usage: " ++ path ++ (if nested then " [OPTIONS] COMMAND [ARGS]..." else " [OPTIONS]")
  let pad := (commands.map (·.1.length)).foldl max 0
  let listed := commands.map fun (n, d) => "  " ++ n ++ "".pushn ' ' (pad + 2 - n.length) ++ d
  let cmds := if commands.isEmpty then "" else "\n\nCommands:\n" ++ "\n".intercalate listed
  usage ++ "\n\n  " ++ about ++ "\n\nOptions:\n  --help  Show this message and exit." ++ cmds ++ "\n"

def rootAbout : String := "Keep pooled Azure Virtual Desktop host pools sized to demand."

/-! ## Running a command -/

/-- How a command body ends: lines printed (markup, or laid-out text, or a line whose making
raised a fault, where printing stops), then nothing more, a reported failure, or a fault nothing
handled. -/
inductive Shown where
  | markup (text : String)
  | plain (text : String)
  | laidOut (text : String)
  | broken (f : Fault)

inductive Finish where
  | ok (lines : List Shown)
  | failed (message : String)
  | crashed (f : Fault)

def showAll : List Shown → String × Option Fault
  | [] => ("", none)
  | s :: rest =>
    let one : Outcome String := match s with
      | .markup t => Console.printed width t
      | .plain t => .ok (Console.plainLayout width t)
      | .laidOut t => .ok t
      | .broken f => .error f
    match one with
    | .error f => ("", some f)
    | .ok t => let (more, f) := showAll rest; (t ++ more, f)

def finish (f : Finish) : Transcript :=
  match f with
  | .ok lines =>
    let (out, crash) := showAll lines
    { stdout := out, status := if crash.isSome then 1 else 0, crash }
  | .failed message =>
    match Console.printed width ("[red]Error: " ++ message ++ "[/red]") with
    | .ok t => { stdout := t, status := 1 }
    | .error f => { status := 1, crash := some f }
  | .crashed f => { status := 1, crash := some f }

/-- The faults a pass-running command reports as failures. -/
def handled (k : Kind) : Bool :=
  [Kind.reconcile, .rebuild, .config, .provider].any k.isA ||
    match k with
    | .slotProvisioning _ _ => true
    | _ => false

def reportIf (ok : Kind → Bool) (f : Fault) : Finish := if ok f.kind then .failed f.message else .crashed f

/-- Where the tool stands: its places on disk, the disk, the scripted `az`, and the environment. -/
structure World where
  places : Places
  disk : Disk
  az : AzCli.Session
  env : Env

def World.given (config : Value) : Option String := config.str?

/-- Settings for a command that talks to the cloud: the resource group must be set. -/
def World.settings (w : World) (config : Value) : Outcome Settings := do
  let s ← w.disk.loadSettings w.places (World.given config)
  if !s.resourceGroup.truthy then
    fail .config "resource_group is not configured. Run: avdpool config init --rg <name>"
  else pure s

/-- Run a pass over the scripted `az` with the services the settings name. -/
def World.pass {α : Type} (w : World) (s : Settings)
    (x : Services (StateM AzCli.Session) → Pass (StateM AzCli.Session) α) : Outcome α × World :=
  match AzCli.ComputeTarget.ofSettings s, AzCli.DirectoryTarget.ofSettings s with
  | .ok c, .ok d =>
    let ((o, _), az) := ((x (AzCli.scriptedServices w.env (.int 0) c d)).run.run {}).run w.az
    (o, { w with az })
  | .error f, _ | _, .error f => (.error f, w)

def text (values : List (String × Value)) (key : String) : String :=
  ((values.lookup key).getD .null).text

def ensureCapacityCmd (w : World) (config : Value) (values : List (String × Value)) : Finish × World :=
  let pool := text values "pool"
  match w.settings config with
  | .error f => (reportIf handled f, w)
  | .ok s =>
    match w.pass s fun svc => ensureCapacity svc s (.str pool) with
    | (.error f, w) => (reportIf handled f, w)
    | (.ok r, w) =>
      let color := if r.converged then "green" else "yellow"
      let counts := [("Reservations:", r.reservations), ("Resumed:", r.resumed.length),
        ("Created:", r.created.length), ("Failed:", r.failures),
        ("Stale deleted:", r.stalePurged.length), ("Surplus deleted:", r.surplusPurged.length),
        ("Orphans deleted:", r.orphansDeleted.length)] ++
        (if r.keptPoweredOff.isEmpty then [] else [("Kept powered off:", r.keptPoweredOff.length)])
      let head := "\n[" ++ color ++ "]Pool " ++ pool ++ ": " ++ toString r.upCount ++ "/" ++
        r.target.text ++ " hosts up[/" ++ color ++ "]"
      (.ok (.markup head :: counts.map fun (label, n) =>
        .markup ("  " ++ label ++ "".pushn ' ' (18 - label.length) ++ toString n)), w)

def rebuildCmd (w : World) (config : Value) (values : List (String × Value)) : Finish × World :=
  let pool := text values "pool"
  match w.settings config with
  | .error f => (reportIf handled f, w)
  | .ok s =>
    match w.pass s fun svc => rebuildReservations svc s (.str pool) with
    | (.error f, w) => (reportIf handled f, w)
    | (.ok ids, w) =>
      let listed := match Sorting.sort ids with
        | .ok sorted => sorted.map fun i => Shown.markup ("  " ++ i.text)
        | .error f => [Shown.broken f]
      (.ok (.markup ("\n[green]✓[/green] " ++ toString ids.length ++ " reservations in pool " ++ pool) ::
        listed), w)

def notifyCmd (w : World) (config : Value) (values : List (String × Value)) : Finish × World :=
  let pool := text values "pool"
  let workload := text values "workload_id"
  let event := (values.lookup "event").getD .null
  match w.settings config with
  | .error f => (reportIf handled f, w)
  | .ok s =>
    match w.pass s fun svc =>
        handleEvent svc s event (.str pool) (.str workload) ((values.lookup "user_id").getD .null) with
    | (.error f, w) => (reportIf handled f, w)
    | (.ok r, w) => (.ok [.markup ("Workload " ++ workload ++ " " ++ event.text ++ ": " ++ r.summary)], w)

def planCmd (w : World) (config : Value) (values : List (String × Value)) : Finish :=
  let given := fun key (dflt : Value) => match values.lookup key with
    | some .null | none => dflt
    | some v => v
  let body : Outcome CapacityPlan := do
    let base := (← w.disk.loadSettings w.places (World.given config)).scaling
    let scaling ← Scaling.ofValue (.table [
      ("max_sessions_per_host", given "max_sessions" base.sessionsPerHost),
      ("min_hosts", given "min_hosts" base.minHosts), ("max_hosts", given "max_hosts" base.maxHosts),
      ("delete_on_scale_down", base.deleteSurplus)])
    scaling.plan (given "reservations" .null) (given "current" (.int 0))
  match body with
  | .error f => reportIf (fun k => k.isA .config || k.isA .badValue) f
  | .ok p =>
    .ok [.markup ("Target hosts: [bold]" ++ p.target.text ++ "[/bold]"),
      .markup ("Action:       " ++ p.action.name), .markup ("Reason:       " ++ p.reason)]

def cell (v : Value) : Outcome String :=
  match v with
  | .str s => .ok s
  | other => fail .notRenderable
      ("unable to render " ++ other.typeName ++ "; a string or other renderable object is required")

def shownCell (t : String) : Outcome String := do
  pure (String.ofList ((← Console.render t).toList.filter (!Console.isDropped ·)))

def statusTable (pool : String) (c : Classification) : Outcome String := do
  let buckets := [("up", "green", c.up), ("resumable", "yellow", c.resumable), ("stale", "red", c.stale)]
  let rows ← buckets.flatMap (fun (label, style, hosts) => hosts.map fun h => (label, style, h)) |>.mapM
    fun (label, style, h) => do
      let name ← cell h.name
      let status ← if h.status.truthy then cell h.status else pure "-"
      pure [name, status, h.sessions.text, "[" ++ style ++ "]" ++ label ++ "[/" ++ style ++ "]"]
  let rows ← rows.mapM (·.mapM shownCell)
  let title ← shownCell ("Session Hosts: " ++ pool)
  pure (Console.table width title [⟨"Host", false⟩, ⟨"Status", false⟩, ⟨"Sessions", true⟩,
    ⟨"Classification", false⟩] rows)

def statusCmd (w : World) (config : Value) (values : List (String × Value)) : Finish × World :=
  let pool := text values "pool"
  match w.settings config with
  | .error f => (reportIf handled f, w)
  | .ok s =>
    let listed := w.pass s fun svc => do
      let hosts ← Pass.call (svc.directory.listHosts (.str pool))
      (classify svc.compute hosts : StateM AzCli.Session Classification)
    match listed with
    | (.error f, w) => (reportIf handled f, w)
    | (.ok c, w) =>
      match statusTable pool c with
      | .error f => (.crashed f, w)
      | .ok t => (.ok [.laidOut t, .markup ("[dim]" ++ c.summary ++ "[/dim]")], w)

def showCmd (w : World) (config : Value) : Finish :=
  match w.disk.loadSettings w.places (World.given config) with
  | .error f => reportIf (·.isA .config) f
  | .ok s =>
    match Toml.dumps ((s.toValue.table?).getD []) with
    | .error f => .crashed f
    | .ok t => .ok [.plain t]

def initCmd (w : World) (config : Value) (values : List (String × Value)) : Finish × World :=
  let given := (World.given config).filter (!·.isEmpty)
  let target := match given with
    | some t => w.places.check t
    | none => .ok w.places.configFile
  match target with
  | .error f => (reportIf (·.isA .config) f, w)
  | .ok target =>
    if w.disk.present target && !((values.lookup "force").getD .null).truthy then
      (.failed ("Config file already exists: " ++ target.render ++ " (use --force to overwrite)"), w)
    else
      let location := (values.lookup "location").getD .null
      let d : Settings := {}
      let s : Settings := { resourceGroup := (values.lookup "resource_group").getD .null,
                            location := if location.truthy then location else d.location }
      match w.disk.saveSettings w.places s (World.given config) with
      | (.error f, disk) => (reportIf (·.isA .config) f, { w with disk })
      | (.ok path, disk) =>
        (.ok [.markup ("[green]✓[/green] Configuration written to " ++ path.render)], { w with disk })

/-! ## The command line -/

/-- Whether a command name reads as one: it is empty or starts with a letter or a character with
a numeric value, of any script. -/
def startsAsName (name : String) : Bool :=
  match name.toList with
  | c :: _ => Unicode.isAlnum c
  | [] => true

/-- A refusal inside a level: the complaint on the error stream, the level's help on the
output stream. -/
def refusedAt (help : String) (r : Refusal) (status : Nat) : Transcript :=
  { status, stderr := "Error: " ++ r.message ++ "\n", stdout := "\n" ++ help ++ "\n", helpShown := true }

def helpOnly (help : String) : Transcript := { stdout := help ++ "\n", helpShown := true }

def versionShown : Transcript := { stdout := "avdpool, version " ++ version ++ "\n" }

/-- An unknown command name `name` followed by the words `rest`, at a level with the parameters
`params`, the help `help` and the commands `commands`. The complaint names the commands close
to it. A name that does not start as one may be an option out of place: the words after it are
then read again as the level's own first, so that their own complaint or flag comes before it,
and with no words after it the level's help is the complaint. -/
def unknownCommand (params : List Param) (help : String) (commands : List String) (name : String)
    (rest : List String) : Transcript :=
  let refused := refusedAt help (.noSuchCommand name (closeNames name commands)) 1
  if startsAsName name then refused
  else if rest.isEmpty then refusedAt help (.noWords help) 1
  else
    match parseLevel params true rest with
    | .error (.refused r) => refusedAt help r 1
    | .error (.flag "version") => versionShown
    | .error (.flag _) => helpOnly help
    | .ok _ => refused

def runCommand (w : World) (config : Value) (name : String) (values : List (String × Value)) :
    Transcript × World :=
  match name with
  | "ensure-capacity" => let (f, w) := ensureCapacityCmd w config values; (finish f, w)
  | "rebuild-reservations" => let (f, w) := rebuildCmd w config values; (finish f, w)
  | "notify" => let (f, w) := notifyCmd w config values; (finish f, w)
  | "plan" => (finish (planCmd w config values), w)
  | "status" => let (f, w) := statusCmd w config values; (finish f, w)
  | "show" => (finish (showCmd w config), w)
  | _ => let (f, w) := initCmd w config values; (finish f, w)

def runLeaf (w : World) (config : Value) (path name : String) (words : List String) : Transcript × World :=
  let help := helpText (path ++ " " ++ name) false
    ((topCommands ++ configCommands).lookup name |>.getD "") []
  match parseLevel (paramsOf name) false words with
  | .error (.refused r) => (refusedAt help r r.status, w)
  | .error (.flag _) => (helpOnly help, w)
  | .ok (values, _) => runCommand w config name values

def runConfig (w : World) (config : Value) (prog : String) (words : List String) : Transcript × World :=
  let path := prog ++ " config"
  let help := helpText path true "Inspect or create the avdpool configuration file." configCommands
  if words.isEmpty then (refusedAt help (.noWords help) 2, w)
  else
    match parseLevel [.opt helpOpt] true words with
    | .error (.refused r) => (refusedAt help r r.status, w)
    | .error (.flag _) => (helpOnly help, w)
    | .ok (_, []) => (refusedAt help .missingCommand 2, w)
    | .ok (_, name :: rest) =>
      if configCommands.any (·.1 == name) then runLeaf w config path name rest
      else (unknownCommand [.opt helpOpt] help (configCommands.map (·.1)) name rest, w)

/-- One run of the tool as `prog` with the words `words`. -/
def run (w : World) (prog : String) (words : List String) : Transcript × World :=
  let help := helpText prog true rootAbout topCommands
  if words.isEmpty then ({ status := 2, stderr := help, helpShown := true }, w)
  else
    match parseLevel rootParams true words with
    | .error (.refused r) =>
      if r.hasContext then
        ({ status := 2, helpShown := true,
           stderr := "Usage: " ++ prog ++ " [OPTIONS] COMMAND [ARGS]...\nTry " ++
             Text.quote (prog ++ " --help") ++ " for help.\n\nError: " ++ r.message ++ "\n" }, w)
      else ({ status := 2, stderr := "Error: " ++ r.message ++ "\n" }, w)
    | .error (.flag "version") => (versionShown, w)
    | .error (.flag _) => (helpOnly help, w)
    | .ok (_, []) => (refusedAt help .missingCommand 2, w)
    | .ok (values, name :: rest) =>
      let config := (values.lookup "config").getD .null
      if name == "config" then runConfig w config prog rest
      else if topCommands.any (·.1 == name) then runLeaf w config prog name rest
      else (unknownCommand rootParams help (topCommands.map (·.1)) name rest, w)

end DesktopPool.Cli
