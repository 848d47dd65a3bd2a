import DesktopPool.Config.Settings
import DesktopPool.Toml.Read
import DesktopPool.Toml.Layout
import DesktopPool.Disk

/-! The settings file. It lives at `.avdpool/config.toml` in the home directory, unless a path
is given; a given path must lie in the configuration directory, the working directory or the
temporary directory, and when reading it must exist.

Loading reads the file strictly (a missing default file gives the default settings). Saving
reads the file it is about to change with its layout, sets every top-level entry of the
settings in it, writes the result beside it under the suffix `.tmp` and moves that over the
file, so a failure leaves the file as it was. Every failure inside loading or saving is a
configuration fault that names the failure it answers. -/
namespace DesktopPool

structure Places where
  home : Path
  cwd : Path
  temp : Path := ["tmp"]

namespace Places

def configDir (p : Places) : Path := p.home ++ [".avdpool"]

def configFile (p : Places) : Path := p.configDir ++ ["config.toml"]

/-- A given path, resolved, when it lies in one of the allowed directories. A `~name` that names
no account cannot be expanded. -/
def check (p : Places) (text : String) : Outcome Path := do
  let some path := Path.resolve p.home p.cwd text
    | fail .misuse "Could not determine home directory."
  if [p.configDir, p.cwd, p.temp].any path.within then .ok path
  else fail .config ("Config path outside allowed directories: " ++ path.render ++
    "\nAllowed directories:\n  - " ++ p.configDir.render ++ "\n  - " ++ p.cwd.render)

end Places

/-- A fault raised in answer to `f`, its message after `lead`. -/
def Fault.wrap (lead : String) (f : Fault) : Fault := Fault.causedBy .config (lead ++ f.message) f

def layoutFault (e : String × String) : Fault := Fault.make (.tomlLayout e.1) e.2

namespace Disk

/-- The settings file to read: the given path, or the default one when none is given. -/
def locate (d : Disk) (p : Places) (given : Option String) : Outcome Path :=
  match given with
  | some text =>
    if text.isEmpty then .ok p.configFile
    else do
      let path ← p.check text
      if d.present path then pure path else fail .config ("Config file not found: " ++ path.render)
  | none => .ok p.configFile

def readSettings (d : Disk) (path : Path) : Outcome Settings := do
  let text ← d.readRaw path
  let data ← Toml.read text
  Settings.ofValue data

/-- The settings in the file, or the defaults when the default file is missing. -/
def loadSettings (d : Disk) (p : Places) (given : Option String) : Outcome Settings := do
  let path ← d.locate p given
  if !d.present path then return {}
  (d.readSettings path).mapError (Fault.wrap "Failed to load config: ")

def setAll (doc : Toml.Document) : List (String × Value) → Outcome Toml.Document
  | [] => .ok doc
  | (k, v) :: rest => do
    let fresh ← Toml.Fresh.ofValue v
    setAll (doc.set k fresh) rest

/-- The text of the settings file after `s` is written into what it holds. -/
def settingsText (d : Disk) (path : Path) (s : Settings) : Outcome String := do
  let doc ← if d.present path then do
      let text ← d.readText path
      (Toml.readLayout text).mapError layoutFault
    else pure []
  let entries := match s.toValue with
    | .table kvs => kvs
    | _ => []
  let doc ← setAll doc entries
  pure doc.render

/-- The file to write, with the directory it goes in made. -/
def target (d : Disk) (p : Places) (given : Option String) : Outcome (Path × Disk) :=
  match given with
  | some text =>
    if text.isEmpty then ensureDefault
    else do
      let path ← p.check text
      let d ← d.makeDirs path.parent
      pure (path, d)
  | none => ensureDefault
where
  ensureDefault : Outcome (Path × Disk) :=
    match d.makeDirs p.configDir with
    | .ok d => .ok (p.configFile, d)
    | .error f => .error (Fault.wrap "Failed to create config directory: " f)

def tempOf (path : Path) : Outcome Path :=
  match path.withSuffix ".tmp" with
  | some t => .ok t
  | none => fail .badValue ("PosixPath(" ++ Text.quote path.render ++ ") has an empty name")

/-- The writing steps of a save; the disk as they leave it, also when one fails. -/
def saveSteps (d : Disk) (p : Places) (s : Settings) (given : Option String) :
    Outcome Path × Option Path × Disk :=
  match d.target p given with
  | .error f => (.error f, none, d)
  | .ok (path, d) =>
    match tempOf path with
    | .error f => (.error f, none, d)
    | .ok temp =>
      match d.settingsText path s with
      | .error f => (.error f, some temp, d)
      | .ok text =>
        match d.write temp text with
        | .error f => (.error f, some temp, d)
        | .ok d =>
          match d.replace temp path with
          | .error f => (.error f, some temp, d)
          | .ok d => (.ok path, some temp, d)

/-- Settings saved to the file; on failure the temporary file is removed. Removing a directory
that stands where the temporary file would be fails, and that failure is the answer. -/
def saveSettings (d : Disk) (p : Places) (s : Settings) (given : Option String) :
    Outcome Path × Disk :=
  match saveSteps d p s given with
  | (.ok path, _, d) => (.ok path, d)
  | (.error f, temp, d) =>
    let failed := Fault.wrap "Failed to save config: " f
    match temp with
    | some t =>
      if d.isFile t then (.error failed, d.remove t)
      else if d.isDir t then (.error (osFault .isADirectory 21 "Is a directory" t), d)
      else (.error failed, d)
    | none => (.error failed, d)

end Disk

end DesktopPool
