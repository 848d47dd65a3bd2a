import DesktopPool.AzCli.Compute
import DesktopPool.AzCli.Directory
import DesktopPool.Json.Write

/-! A scripted `az`: rules say how commands end, and a clock moves only when someone sleeps.
The first rule that matches a command decides it: a rule matches when the command starts with
the rule's prefix and holds each of its required arguments (arguments compared as values; a
command given as one text holds an argument whose text occurs in it), and
a rule with a number of uses is skipped once they are spent. A rule ends the command past its
deadline, or with a status (0 by default), error output, and standard output (the rule's JSON
value written out, or its text). A command no rule matches ends with status 0 and no output.
Every command and every sleep is recorded. -/
namespace DesktopPool

namespace AzCli

structure Rule where
  lead : List Value
  needs : List Value := []
  uses : Option Nat := none
  timesOut : Bool := false
  code : Int := 0
  stdout : String := ""
  stderr : String := ""

def Rule.ofValue (v : Value) : Rule :=
  { lead := (v.getD "prefix" .null).list?.getD [], needs := (v.getD "contains" .null).list?.getD []
    uses := match v.get? "times" with
      | some (.int n) => some n.toNat
      | _ => none
    timesOut := (v.getD "timeout" .null).truthy
    code := match v.getD "returncode" (.int 0) with
      | .int n => n
      | _ => 0
    stdout := match v.get? "json" with
      | some j => Json.write Json.plain j
      | none => (v.getD "stdout" (.str "")).text
    stderr := (v.getD "stderr" (.str "")).text }

/-- Whether a rule decides a command. A command given as one text is matched by its characters
against the prefix, and holds a required argument when the argument's text occurs in it. -/
def Rule.matches (r : Rule) (text : Option String) (cmd : List Value) : Bool :=
  r.uses != some 0 && Value.sameList (cmd.take r.lead.length) r.lead &&
    match text with
    | some s => r.needs.all fun n => match n with
      | .str t => Text.occursIn t s
      | _ => false
    | none => r.needs.all (·.within cmd)

structure Session where
  rules : List Rule
  clock : Value := .float 0.0
  commands : List (List Value × Value) := []
  sleeps : List Value := []
  drawn : Nat := 0

namespace Session

/-- Spend one use of the first rule matching `cmd` (given as the text `text`, if it was), and
return it. -/
def pick (text : Option String) (cmd : List Value) : List Rule → Option Rule × List Rule
  | [] => (none, [])
  | r :: rest =>
    if r.matches text cmd then (some r, { r with uses := r.uses.map (· - 1) } :: rest)
    else let (found, rest) := pick text cmd rest; (found, r :: rest)

def runAs (text : Option String) (cmd : List Value) (timeout : Value) : StateM Session Exit := do
  let s ← get
  let (found, rules) := pick text cmd s.rules
  set { s with rules, commands := s.commands ++ [(cmd, timeout)] }
  pure (match found with
    | none => .finished ⟨0, "", ""⟩
    | some r => if r.timesOut then .timedOut else .finished ⟨r.code, r.stdout, r.stderr⟩)

/-- The clock moved on by `d` in place: a complaint about the addition names the operator as
`+=`. -/
def advance (clock d : Value) : Outcome Value :=
  (clock.arith .add d).mapError fun f =>
    if f.kind == .wrongType then { f with message := f.message.replace "for +:" "for +=:" } else f

/-- Sleep `d`: the sleep is recorded, then the clock moves on, or the sleep fails and the clock
stays. -/
def sleep (d : Value) : StateM Session (Outcome Unit) := do
  let s ← get
  let moved := advance s.clock d
  set { s with clock := moved.toOption.getD s.clock, sleeps := s.sleeps ++ [d] }
  pure (moved.map fun _ => ())

/-- The shell of a scripted session; `t` is the position of every uniform draw in `[-1, 1]`. -/
def shell (env : Env) (t : Value) : Shell (StateM Session) :=
  { run := runAs none, sleep, clock := do pure (← get).clock, draw := Backoff.drawAt t,
    log := fun _ _ => pure (), env }

def fresh : StateM Session Nat := do
  let s ← get
  set { s with drawn := s.drawn + 1 }
  pure (s.drawn + 1)

end Session

def scriptedServices (env : Env) (t : Value) (c : ComputeTarget) (d : DirectoryTarget) :
    Services (StateM Session) :=
  let sh := Session.shell env t
  { compute := computeService sh c, directory := directoryService sh d, cancelled := pure false,
    fresh := Session.fresh, env }

end AzCli

end DesktopPool
