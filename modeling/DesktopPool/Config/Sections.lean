import DesktopPool.Capacity.Scaling

/-! Sections of the configuration: bounded waits, the template of new session hosts, and the
options of their setup script. Values are kept as given. Every wait must be positive, checked
in field order; the template and the setup options are not checked. -/
namespace DesktopPool

/-- Bounded waits of a pass, in seconds. -/
structure Timeouts where
  lock : Value := .float 3600.0
  resumeReady : Value := .float 300.0
  createReady : Value := .float 600.0
  script : Value := .float 1200.0
  scriptPoll : Value := .float 15.0
  readyPoll : Value := .float 10.0
  deriving Inhabited

namespace Timeouts

def shape : RecordShape :=
  ⟨"avdpool.config_manager.TimeoutConfig", "TimeoutConfig",
    ["lock_timeout_seconds", "resume_ready_timeout", "create_ready_timeout", "script_timeout",
      "script_poll_interval", "ready_poll_interval"]⟩

def toTable (t : Timeouts) : List (String × Value) :=
  [("lock_timeout_seconds", t.lock), ("resume_ready_timeout", t.resumeReady),
    ("create_ready_timeout", t.createReady), ("script_timeout", t.script),
    ("script_poll_interval", t.scriptPoll), ("ready_poll_interval", t.readyPoll)]

/-- Each wait positive, the first that is not named in the fault. -/
def validate (t : Timeouts) : Outcome Timeouts :=
  t.toTable.foldlM (fun acc (name, v) => do
    if ← v.relate .le (.int 0) then fail .badValue s!"{name} must be positive" else pure acc) t

def ofValue (arg : Value) : Outcome Timeouts := do
  let kvs ← shape.supplied arg
  let d : Timeouts := {}
  validate {
    lock := fieldOr kvs "lock_timeout_seconds" d.lock
    resumeReady := fieldOr kvs "resume_ready_timeout" d.resumeReady
    createReady := fieldOr kvs "create_ready_timeout" d.createReady
    script := fieldOr kvs "script_timeout" d.script
    scriptPoll := fieldOr kvs "script_poll_interval" d.scriptPoll
    readyPoll := fieldOr kvs "ready_poll_interval" d.readyPoll }

end Timeouts

structure HostTemplate where
  namePrefix : Value := .str "shvm-"
  image : Value := .str "MicrosoftWindowsDesktop:windows-11:win11-22h2-avd:latest"
  size : Value := .str "Standard_D2s_v4"
  securityType : Value := .str "TrustedLaunch"
  operatingSystem : Value := .str "windows"
  adminUsername : Value := .str "avdadmin"
  adminPasswordEnv : Value := .str "AVDPOOL_ADMIN_PASSWORD"
  tags : Value := .table [("created-by", .str "avdpool: capacity reconciler")]
  deriving Inhabited

namespace HostTemplate

def shape : RecordShape :=
  ⟨"avdpool.config_manager.HostTemplate", "HostTemplate",
    ["name_prefix", "image", "size", "security_type", "operating_system", "admin_username",
      "admin_password_env", "tags"]⟩

def ofValue (arg : Value) : Outcome HostTemplate := do
  let kvs ← shape.supplied arg
  let d : HostTemplate := {}
  pure {
    namePrefix := fieldOr kvs "name_prefix" d.namePrefix
    image := fieldOr kvs "image" d.image
    size := fieldOr kvs "size" d.size
    securityType := fieldOr kvs "security_type" d.securityType
    operatingSystem := fieldOr kvs "operating_system" d.operatingSystem
    adminUsername := fieldOr kvs "admin_username" d.adminUsername
    adminPasswordEnv := fieldOr kvs "admin_password_env" d.adminPasswordEnv
    tags := fieldOr kvs "tags" d.tags }

def toTable (h : HostTemplate) : List (String × Value) :=
  [("name_prefix", h.namePrefix), ("image", h.image), ("size", h.size),
    ("security_type", h.securityType), ("operating_system", h.operatingSystem),
    ("admin_username", h.adminUsername), ("admin_password_env", h.adminPasswordEnv),
    ("tags", h.tags)]

end HostTemplate

structure SetupOptions where
  domainName : Value := .null
  domainUsername : Value := .null
  domainPasswordEnv : Value := .str "AVDPOOL_DOMAIN_PASSWORD"
  ouPath : Value := .null
  agentUrl : Value := .null
  bootloaderUrl : Value := .null
  restart : Value := .bool true
  restartDelay : Value := .int 5
  deriving Inhabited

namespace SetupOptions

def shape : RecordShape :=
  ⟨"avdpool.config_manager.SetupScriptConfig", "SetupScriptConfig",
    ["domain_name", "domain_username", "domain_password_env", "organizational_unit_path",
      "avd_agent_url", "avd_bootloader_url", "restart_after_setup", "restart_delay_seconds"]⟩

def ofValue (arg : Value) : Outcome SetupOptions := do
  let kvs ← shape.supplied arg
  let d : SetupOptions := {}
  pure {
    domainName := fieldOr kvs "domain_name" d.domainName
    domainUsername := fieldOr kvs "domain_username" d.domainUsername
    domainPasswordEnv := fieldOr kvs "domain_password_env" d.domainPasswordEnv
    ouPath := fieldOr kvs "organizational_unit_path" d.ouPath
    agentUrl := fieldOr kvs "avd_agent_url" d.agentUrl
    bootloaderUrl := fieldOr kvs "avd_bootloader_url" d.bootloaderUrl
    restart := fieldOr kvs "restart_after_setup" d.restart
    restartDelay := fieldOr kvs "restart_delay_seconds" d.restartDelay }

def toTable (o : SetupOptions) : List (String × Value) :=
  [("domain_name", o.domainName), ("domain_username", o.domainUsername),
    ("domain_password_env", o.domainPasswordEnv), ("organizational_unit_path", o.ouPath),
    ("avd_agent_url", o.agentUrl), ("avd_bootloader_url", o.bootloaderUrl),
    ("restart_after_setup", o.restart), ("restart_delay_seconds", o.restartDelay)]

/-- Hosts join a domain when a domain name is set. -/
def joinsDomain (o : SetupOptions) : Bool := o.domainName.truthy

end SetupOptions

end DesktopPool
