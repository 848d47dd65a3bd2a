import DesktopPool.Cli.Run
import DesktopPool.Json.Read

/-! The command line of the tool. The arguments are the tool's words; standard input may hold
a JSON description of the world the tool sees: `files` (paths, relative ones taken from the
home directory, with their text), `az` (how the cloud's command-line front answers, as rules)
and `env` (environment variables). Without a description the world is empty. The tool's
output and error streams are written out and its status is the exit status. -/
open DesktopPool

/-- The home and working directory of the described world. -/
def homeDir : Path := ["home", "avdpool"]

def worldOf (desc : Value) : Cli.World :=
  let places : Places := { home := homeDir, cwd := homeDir }
  let files := ((desc.getD "files" (.table [])).table?.getD []).map fun (p, t) =>
    let (absolute, components) := Path.parts p
    (Path.follow (if absolute then [] else homeDir) components, t.text)
  let rules := ((desc.getD "az" (.list [])).list?.getD []).map AzCli.Rule.ofValue
  let env := ((desc.getD "env" (.table [])).table?.getD []).map fun (k, v) => (k, v.text)
  { places, disk := { files, dirs := [homeDir] }, az := { rules }, env }

partial def readAll (stream : IO.FS.Stream) (acc : String) : IO String := do
  let line ← stream.getLine
  if line.isEmpty then pure acc else readAll stream (acc ++ line)

def main (args : List String) : IO UInt32 := do
  let text ← readAll (← IO.getStdin) ""
  let desc := if (Text.trim text).isEmpty then Value.table [] else (Json.read text).toOption.getD (.table [])
  let (t, _) := Cli.run (worldOf desc) "avdpool" args
  IO.print t.stdout
  IO.eprint t.stderr
  pure t.status.toUInt32
