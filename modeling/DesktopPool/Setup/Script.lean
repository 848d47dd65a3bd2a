import DesktopPool.Config.Sections
import DesktopPool.Retry.Settings

/-! The setup script that turns a fresh node into a session host: a transcript, an optional
domain join, the install of the agent and its boot loader registered with the pool's token, an
optional restart. Every embedded value is a single-quoted literal, with its apostrophes doubled;
the domain password comes from the environment, never from the configuration. The checks run in
script order: the token, then the domain join (user, then password), then the two installer
addresses, then the restart delay. -/
namespace DesktopPool

namespace SetupScript

def logPath : String := "C:\\avdpool\\setup.log"

/-- Text with every apostrophe doubled, as inside a single-quoted literal. -/
def escapeText (s : String) : String :=
  String.join (s.toList.map fun c => if c = Text.apostrophe then "''" else c.toString)

def escape (v : Value) : Outcome String :=
  match v with
  | .str s => .ok (escapeText s)
  | _ => fail .missingAttribute s!"{Text.quote v.typeName} object has no attribute 'replace'"

/-- A value that must be text, as a single-quoted literal. -/
def quote (v : Value) : Outcome String := do
  pure ("'" ++ (← escape v) ++ "'")

def start : String :=
  let log := "'" ++ escapeText logPath ++ "'"
  "\n".intercalate [
    "$ErrorActionPreference = 'Stop'",
    s!"New-Item -ItemType Directory -Force -Path (Split-Path {log}) | Out-Null",
    s!"Start-Transcript -Path {log} -Append"]

def joinDomain (o : SetupOptions) (env : Env) : Outcome String := do
  if !o.domainUsername.truthy then
    fail .setupScript "domain_username is required when domain_name is set"
  let password ← match ← env.find o.domainPasswordEnv with
    | some p => if p.isEmpty then pure none else pure (some p)
    | none => pure none
  let some password := password
    | fail .setupScript
        s!"Domain join password not set (environment variable {o.domainPasswordEnv.text})"
  let secure ← quote (.str password)
  let user ← quote o.domainUsername
  let domain ← quote (if o.domainName.truthy then o.domainName else .str "")
  let ou ← if o.ouPath.truthy then do pure (" -OUPath " ++ (← quote o.ouPath)) else pure ""
  pure ("\n".intercalate [
    "# Join Active Directory domain",
    s!"$password = ConvertTo-SecureString {secure} -AsPlainText -Force",
    s!"$credential = New-Object System.Management.Automation.PSCredential({user}, $password)",
    s!"Add-Computer -DomainName {domain} -Credential $credential" ++ ou ++ " -Force"])

def install (o : SetupOptions) (token : Value) : Outcome String := do
  if !o.agentUrl.truthy || !o.bootloaderUrl.truthy then
    fail .setupScript "avd_agent_url and avd_bootloader_url are required"
  let agent ← quote o.agentUrl
  let loader ← quote o.bootloaderUrl
  let secret ← escape token
  pure ("\n".intercalate [
    "# Install AVD agent and boot loader",
    "$agent = Join-Path $env:TEMP 'RDAgent.msi'",
    "$bootloader = Join-Path $env:TEMP 'RDAgentBootLoader.msi'",
    s!"Invoke-WebRequest -UseBasicParsing -Uri {agent} -OutFile $agent",
    s!"Invoke-WebRequest -UseBasicParsing -Uri {loader} -OutFile $bootloader",
    s!"Start-Process msiexec.exe -Wait -ArgumentList @(" ++
      s!"'/i', $agent, '/quiet', 'REGISTRATIONTOKEN={secret}')",
    "Start-Process msiexec.exe -Wait -ArgumentList @('/i', $bootloader, '/quiet')"])

def restart (delay : Value) : Outcome String := do
  let seconds ← delay.toWhole
  pure ("# Restart so the agent registers with the host pool\n" ++ s!"shutdown.exe /r /t {seconds}")

/-- The whole script: sections separated by a blank line, ending in a newline. -/
def build (o : SetupOptions) (token : Value) (env : Env) : Outcome String := do
  if !token.truthy then fail .setupScript "Registration token cannot be empty"
  let domain ← if o.joinsDomain then do pure [← joinDomain o env] else pure []
  let agent ← install o token
  let reboot ← if o.restart.truthy then do pure [← restart o.restartDelay] else pure []
  pure ("\n\n".intercalate ([start] ++ domain ++ [agent] ++ reboot ++ ["Stop-Transcript"]) ++ "\n")

end SetupScript

end DesktopPool
