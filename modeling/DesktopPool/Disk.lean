import DesktopPool.Fault
import DesktopPool.Text.Quoted

/-! A small file system: text files by absolute path, and directories. A directory exists when
it was made, when it holds a file or another directory, or when it is the root. Operations that
fail give the operating system's fault, whose message names the error number, its meaning and
the path (`[Errno 2] No such file or directory: '/a/b'`). Reading in text mode turns `\r\n`
and a lone `\r` into `\n`. -/
namespace DesktopPool

abbrev Path := List String

namespace Path

def render (p : Path) : String := "/" ++ "/".intercalate p

def parent (p : Path) : Path := p.dropLast

/-- The proper ancestors of a path, the root excluded, nearest to the root first. -/
def ancestors (p : Path) : List Path := (List.range p.length).tail.map p.take

/-- The home directories of the system's accounts, which `~name` stands for. -/
def accountHomes : List (String × Path) :=
  [("root", ["root"]), ("daemon", ["usr", "sbin"]), ("bin", ["bin"]), ("sys", ["dev"]),
   ("sync", ["bin"]), ("games", ["usr", "games"]), ("man", ["var", "cache", "man"]),
   ("lp", ["var", "spool", "lpd"]), ("mail", ["var", "mail"]), ("news", ["var", "spool", "news"]),
   ("uucp", ["var", "spool", "uucp"]), ("proxy", ["bin"]), ("www-data", ["var", "www"]),
   ("backup", ["var", "backups"]), ("list", ["var", "list"]), ("irc", ["run", "ircd"]),
   ("_apt", ["nonexistent"]), ("nobody", ["nonexistent"])]

def linkedDirs : List String := ["bin", "sbin", "lib", "lib64"]

/-- The components of a path given as text, with empty components and `.` dropped, and whether
it starts at the root. -/
def parts (text : String) : Bool × List String :=
  (text.startsWith "/", (text.splitOn "/").filter fun part => !part.isEmpty && part != ".")

/-- A relative path whose first component is `~` or `~name` with that component replaced by the
home directory it names (`home` for `~` alone); `none` when no account has the name. Other paths
are kept. -/
def expandUser (home : Path) (text : String) : Option (Bool × List String) :=
  match parts text with
  | (false, first :: rest) =>
    if first.startsWith "~" then
      let name := String.ofList (first.toList.drop 1)
      let dir := if name.isEmpty then some home else accountHomes.lookup name
      dir.map fun d => (true, d ++ rest)
    else some (false, first :: rest)
  | given => some given

/-- Components taken from `base` on, `..` going up a level, and a directory of the root that is a
link into `/usr` followed there. -/
def follow (base : Path) (components : List String) : Path :=
  components.foldl (fun acc part =>
    if part == ".." then acc.dropLast
    else match acc ++ [part] with
      | [d] => if linkedDirs.contains d then ["usr", d] else [d]
      | p => p) base

/-- A path given as text, made absolute from `cwd` after `~` and `~name` are expanded, with its
`..` components and links followed; `none` when `~name` names no account. -/
def resolve (home cwd : Path) (text : String) : Option Path :=
  (expandUser home text).map fun (absolute, components) =>
    follow (if absolute then [] else cwd) components

def within (p dir : Path) : Bool := dir.isPrefixOf p

/-- The path with the suffix of its last component (from its last dot, when that dot is neither
its first nor its last character) replaced by `suffix`; nothing for the root. -/
def withSuffix (p : Path) (suffix : String) : Option Path :=
  match p.getLast? with
  | none => none
  | some name =>
    let cs := name.toList
    let dots := (cs.zipIdx.filter (·.1 == '.')).map (·.2)
    let stem := match dots.getLast? with
      | some i => if 0 < i && i < cs.length - 1 then String.ofList (cs.take i) else name
      | none => name
    some (p.dropLast ++ [stem ++ suffix])

end Path

structure Disk where
  files : List (Path × String) := []
  dirs : List Path := []
  deriving Inhabited

def osFault (kind : Kind) (code : Nat) (meaning : String) (p : Path) : Fault :=
  Fault.make kind ("[Errno " ++ toString code ++ "] " ++ meaning ++ ": " ++ Text.quote p.render)

/-- Text as a text-mode read gives it: every line break a `\n`. -/
def newlinesOf (t : String) : String := (t.replace "\r\n" "\n").replace "\r" "\n"

namespace Disk

def isFile (d : Disk) (p : Path) : Bool := d.files.any (·.1 == p)

def isDir (d : Disk) (p : Path) : Bool :=
  p.isEmpty || d.dirs.contains p ||
    d.files.any (fun (f, _) => p.length < f.length && p.isPrefixOf f) ||
    d.dirs.any (fun q => p.length < q.length && p.isPrefixOf q)

def present (d : Disk) (p : Path) : Bool := d.isFile p || d.isDir p

def throughFile (d : Disk) (p : Path) : Bool := p.ancestors.any d.isFile

def readRaw (d : Disk) (p : Path) : Outcome String :=
  match d.files.lookup p with
  | some t => .ok t
  | none =>
    if d.isDir p then .error (osFault .isADirectory 21 "Is a directory" p)
    else if d.throughFile p then .error (osFault .notADirectory 20 "Not a directory" p)
    else .error (osFault .fileNotFound 2 "No such file or directory" p)

def readText (d : Disk) (p : Path) : Outcome String := (d.readRaw p).map newlinesOf

/-- A directory and the ones above it made; one that is there already is fine. -/
def makeDirs (d : Disk) (p : Path) : Outcome Disk :=
  if d.isDir p then .ok d
  else if d.isFile p then .error (osFault .fileExists 17 "File exists" p)
  else if d.throughFile p then .error (osFault .notADirectory 20 "Not a directory" p)
  else .ok { d with dirs := d.dirs ++ [p] }

def write (d : Disk) (p : Path) (text : String) : Outcome Disk :=
  if d.isDir p then .error (osFault .isADirectory 21 "Is a directory" p)
  else if d.throughFile p then .error (osFault .notADirectory 20 "Not a directory" p)
  else if !d.isDir p.parent then .error (osFault .fileNotFound 2 "No such file or directory" p)
  else .ok { d with files := (d.files.filter (·.1 != p)) ++ [(p, text)] }

def remove (d : Disk) (p : Path) : Disk := { d with files := d.files.filter (·.1 != p) }

/-- A file put in place as it is, the directories above it with it. -/
def put (d : Disk) (p : Path) (text : String) : Disk :=
  { d with files := (d.files.filter (·.1 != p)) ++ [(p, text)] }

def replace (d : Disk) (src dst : Path) : Outcome Disk :=
  if d.isDir dst then
    .error (Fault.make .isADirectory
      ("[Errno 21] Is a directory: " ++ Text.quote src.render ++ " -> " ++ Text.quote dst.render))
  else
    match d.files.lookup src with
    | some t => .ok { d with files := (d.files.filter fun (f, _) => f != src && f != dst) ++ [(dst, t)] }
    | none => .error (osFault .fileNotFound 2 "No such file or directory" src)

/-- The files below a directory, by their path relative to it, as a text-mode read gives them. -/
def below (d : Disk) (dir : Path) : List (String × String) :=
  (d.files.filter fun (f, _) => dir.isPrefixOf f && dir.length < f.length).map fun (f, t) =>
    ("/".intercalate (f.drop dir.length), newlinesOf t)

end Disk

end DesktopPool
