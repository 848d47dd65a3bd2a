import DesktopPool.Number.Read
import DesktopPool.Value.Basic
import DesktopPool.Text.Quoted
import DesktopPool.Text.Blank
import DesktopPool.Text.Sort

/-! The grammar of one level of the command line: options, flags and one kind of positional
argument, read the way the tool's command-line library reads them.

Reading goes left to right. `--` ends the options. A word that starts with `-` and is longer
than that is an option: `--name=value` gives the value inline; a known long name that takes a
value takes the next word whatever it looks like; a word that is no long name and starts with a
single `-` is a cluster of one-letter flags. An unknown long name is refused with the known
names that are close to it. Other words are positional; at a level with subcommands the first
one ends the reading and the rest belongs to the subcommand.

Values are then settled parameter by parameter: the help and version flags first, then the
parameters in the order they were first written, then the others in the order they are
declared. The first value that does not read (an integer that is not one, a choice that is not
offered) or required parameter that is missing stops the command; so do positional words left
over. -/
namespace DesktopPool.Cli

inductive Form where
  | text
  | integer
  | choice (names : List String)

/-- An option: the names it is written under, the key its value is kept under, and whether it
is a flag (takes no value), required, settled first (help and version), or has a default. -/
structure Opt where
  key : String
  names : List String
  form : Form := .text
  flag : Bool := false
  required : Bool := false
  eager : Bool := false
  default : Value := .null

structure Arg where
  key : String
  form : Form

inductive Param where
  | opt (o : Opt)
  | arg (a : Arg)

namespace Param

def key : Param → String
  | .opt o => o.key
  | .arg a => a.key

def eager : Param → Bool
  | .opt o => o.eager
  | .arg _ => false

end Param

def helpOpt : Opt := { key := "help", names := ["--help"], flag := true, eager := true }

/-- Why a command line is refused. -/
inductive Refusal where
  | noSuchOption (name : String) (close : List String)
  | needsValue (name : String)
  | takesNoValue (name : String)
  | badValue (hint message : String)
  | missing (what hint : String) (more : String)
  | extra (words : List String)
  | noSuchCommand (name : String) (close : List String)
  | missingCommand
  /-- A level with subcommands called with nothing: its help is shown as the complaint. -/
  | noWords (usage : String)

namespace Refusal

/-- The names a mistyped one may have meant, after the complaint about it. -/
def suggestion : List String → String
  | [] => ""
  | [one] => " Did you mean " ++ Text.quote one ++ "?"
  | many => " (Did you mean one of: " ++ ", ".intercalate (many.map Text.quote) ++ "?)"

def message : Refusal → String
  | .noSuchOption name close => "No such option " ++ Text.quote name ++ "." ++ suggestion close
  | .needsValue name => "Option " ++ Text.quote name ++ " requires an argument."
  | .takesNoValue name => "Option " ++ Text.quote name ++ " does not take a value."
  | .badValue hint message => "Invalid value for " ++ hint ++ ": " ++ message
  | .missing what hint more => "Missing " ++ what ++ " " ++ hint ++ "." ++ more
  | .extra [w] => "Got unexpected extra argument (" ++ w ++ ")"
  | .extra ws => "Got unexpected extra arguments (" ++ " ".intercalate ws ++ ")"
  | .noSuchCommand name close => "No such command " ++ Text.quote name ++ "." ++ suggestion close
  | .missingCommand => "Missing command."
  | .noWords usage => usage

/-- Whether the complaint knows the level it was made at, so that the level's usage comes with
it: all do but those about an option's value being there or not. -/
def hasContext : Refusal → Bool
  | .needsValue _ | .takesNoValue _ => false
  | _ => true

/-- The status a refusal ends the program with; an unknown command ends it with 1. -/
def status : Refusal → Nat
  | .noSuchCommand .. => 1
  | _ => 2

end Refusal

/-! ## Close names -/

/-- The longest common run of `a[alo, ahi)` and `b[blo, bhi)`: `(i, j, k)`, the earliest in `a`
(then in `b`) among the longest. -/
def longestRun (a b : Array Char) (alo ahi blo bhi : Nat) : Nat × Nat × Nat :=
  let step := fun (acc : Nat × Nat × Nat × List (Nat × Nat)) (i : Nat) =>
    let (bi, bj, bk, prev) := acc
    let ai := a.getD i ' '
    let js := (List.range (bhi - blo)).map (blo + ·) |>.filter fun j => b.getD j ' ' == ai
    js.foldl (fun (bi, bj, bk, cur) j =>
      let k := ((prev.lookup (j - 1)).filter (fun _ => j > blo)).getD 0 + 1
      let cur := (j, k) :: cur
      if k > bk then (i + 1 - k, j + 1 - k, k, cur) else (bi, bj, bk, cur)) (bi, bj, bk, [])
  let (bi, bj, bk, _) := ((List.range (ahi - alo)).map (alo + ·)).foldl step (alo, blo, 0, [])
  (bi, bj, bk)

/-- How many characters `a` and `b` have in common runs: the longest run, then the same in the
parts before it and after it. -/
def matched (a b : Array Char) : Nat → Nat → Nat → Nat → Nat → Nat
  | 0, _, _, _, _ => 0
  | fuel + 1, alo, ahi, blo, bhi =>
    let (i, j, k) := longestRun a b alo ahi blo bhi
    if k == 0 then 0
    else
      let left := if alo < i && blo < j then matched a b fuel alo i blo j else 0
      let right := if i + k < ahi && j + k < bhi then matched a b fuel (i + k) ahi (j + k) bhi else 0
      k + left + right

/-- Twice the common characters and the total length: their ratio is the likeness of the two. -/
def likeness (candidate word : String) : Nat × Nat :=
  let a := candidate.toList.toArray
  let b := word.toList.toArray
  (2 * matched a b (a.size + b.size + 1) 0 a.size 0 b.size, a.size + b.size)

/-- The names at least 0.6 alike to `word`: the three likest (the later name first among equals),
in alphabetical order. -/
def closeNames (word : String) (names : List String) : List String :=
  let scored := names.filterMap fun n =>
    let (m, t) := likeness n word
    if 10 * m ≥ 6 * t && t > 0 then some (n, m, t) else none
  let better := fun (x y : String × Nat × Nat) =>
    let (nx, mx, tx) := x
    let (ny, my, ty) := y
    mx * ty > my * tx || (mx * ty == my * tx && Text.compareText ny nx == .lt)
  Text.sorted (((scored.mergeSort better).take 3).map (·.1))

/-! ## Reading words -/

def isLong (name : String) : Bool := !(name.length == 2 && name.startsWith "-" && !name.startsWith "--")

def Opt.longNames (o : Opt) : List String := o.names.filter isLong

structure Words where
  given : List (String × Value) := []
  order : List String := []
  positional : List String := []

def Words.note (w : Words) (key : String) (v : Value) : Words :=
  { w with given := (w.given.filter (·.1 != key)) ++ [(key, v)], order := w.order ++ [key] }

def optNamed (opts : List Opt) (name : String) : Option Opt := opts.find? (·.names.contains name)

def shortFlags (opts : List Opt) (w : Words) : List Char → Except Refusal Words
  | [] => .ok w
  | c :: rest =>
    let name := String.ofList ['-', c]
    match optNamed opts name with
    | some o => if o.flag then shortFlags opts (w.note o.key (.bool true)) rest
      else .error (.needsValue name)
    | none => .error (.noSuchOption name [])

/-- Read the words of one level. `nested` says the level has subcommands: the first positional
word ends the reading. -/
def readWords (opts : List Opt) (nested : Bool) : Nat → Words → List String → Except Refusal Words
  | 0, w, rest => .ok { w with positional := w.positional ++ rest }
  | _ + 1, w, [] => .ok w
  | fuel + 1, w, word :: rest =>
    if word == "--" then .ok { w with positional := w.positional ++ rest }
    else if word.startsWith "-" && word.length > 1 then
      let (name, inline) := match word.splitOn "=" with
        | n :: v :: more => (n, some ("=".intercalate (v :: more)))
        | _ => (word, none)
      match (optNamed opts name).filter (fun o => isLong name && o.names.contains name) with
      | some o =>
        if o.flag then
          if inline.isSome then .error (.takesNoValue name)
          else readWords opts nested fuel (w.note o.key (.bool true)) rest
        else
          match inline, rest with
          | some v, _ => readWords opts nested fuel (w.note o.key (.str v)) rest
          | none, v :: more => readWords opts nested fuel (w.note o.key (.str v)) more
          | none, [] => .error (.needsValue name)
      | none =>
        if word.startsWith "--" then
          .error (.noSuchOption name (closeNames name (opts.flatMap Opt.longNames)))
        else do
          let w ← shortFlags opts w (word.toList.drop 1)
          readWords opts nested fuel w rest
    else if nested then .ok { w with positional := w.positional ++ word :: rest }
    else readWords opts nested fuel { w with positional := w.positional ++ [word] } rest

/-! ## Settling values -/

def Param.hint : Param → String
  | .opt o => " / ".intercalate (o.names.map fun n => "'" ++ n ++ "'")
  | .arg a => match a.form with
    | .choice names => "'\x7b" ++ "|".intercalate names ++ "\x7d'"
    | _ => "'" ++ a.key.toUpper ++ "'"

def Param.form : Param → Form
  | .opt o => o.form
  | .arg a => a.form

def convert (p : Param) (v : Value) : Except Refusal Value :=
  match p.form, v with
  | .integer, .str s =>
    match NumberText.readInt? s with
    | some n => .ok (.int n)
    | none => .error (.badValue p.hint (Text.quote s ++ " is not a valid integer."))
  | .choice names, .str s =>
    if names.contains s then .ok v
    else .error (.badValue p.hint (Text.quote s ++ " is not one of " ++
      ", ".intercalate (names.map Text.quote) ++ "."))
  | _, _ => .ok v

def Param.missing (p : Param) : Refusal :=
  match p with
  | .opt _ => .missing "option" p.hint ""
  | .arg a =>
    match a.form with
    | .choice names => .missing "argument" p.hint (" Choose from:\n\t" ++ ",\n\t".intercalate names ++ ".")
    | _ => .missing "argument" p.hint ""

inductive Halt where
  | refused (r : Refusal)
  | flag (key : String)

def settleOrder (params : List Param) (order : List String) : List Param :=
  let rank := fun (p : Param) => (order.findIdx? (· == p.key)).getD order.length
  params.mergeSort fun x y =>
    (x.eager && !y.eager) || (x.eager == y.eager && rank x ≤ rank y)

def settle (params : List Param) (w : Words) : Except Halt (List (String × Value)) :=
  (settleOrder params w.order).foldlM (fun acc p => do
    let given := w.given.lookup p.key
    match p with
    | .opt o =>
      if o.eager then
        if (given.getD .null).truthy then throw (.flag o.key) else pure acc
      else
        let v ← (convert p (given.getD o.default)).mapError .refused
        if o.required && v.isNull then throw (.refused p.missing)
        pure (acc ++ [(o.key, v)])
    | .arg a =>
      match given with
      | some v => do
        let v ← (convert p v).mapError .refused
        pure (acc ++ [(a.key, v)])
      | none => throw (.refused p.missing)) []

/-- One level of a command line read and settled. The positional argument, when there is one,
takes the first positional word; at a level with subcommands the positional words are left
for them, and elsewhere a word left over is refused. -/
def parseLevel (params : List Param) (nested : Bool) (words : List String) :
    Except Halt (List (String × Value) × List String) := do
  let opts := params.filterMap fun p => match p with | .opt o => some o | .arg _ => none
  let w ← (readWords opts nested (words.length + 1) {} words).mapError .refused
  let args := params.filterMap fun p => match p with | .arg a => some a | .opt _ => none
  let (w, left) := match args, w.positional with
    | a :: _, v :: more =>
      ({ w with given := w.given ++ [(a.key, Value.str v)], order := w.order ++ [a.key] }, more)
    | a :: _, [] => ({ w with order := w.order ++ [a.key] }, [])
    | [], ps => (w, ps)
  let values ← settle params w
  if !nested && !left.isEmpty then throw (Halt.refused (.extra left))
  pure (values, left)

end DesktopPool.Cli
