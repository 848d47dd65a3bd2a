/-! Dates and times of day, as configuration files write them: a calendar day, a time of day
to the microsecond, or a day with a time and, when one is given, an offset from UTC in
minutes. A moment has three texts: its plain form (a blank between day and time, the offset as
`±HH:MM`), its standard form (a `T` between them), and its quoted form, the constructor call that
rebuilds it, where trailing zero fields of a time are left out and a zero offset is UTC. -/
namespace DesktopPool

structure Clock where
  hour : Nat
  minute : Nat
  second : Nat
  micros : Nat
  deriving DecidableEq, Repr, Inhabited

structure Day where
  year : Nat
  month : Nat
  day : Nat
  deriving DecidableEq, Repr, Inhabited

inductive Moment where
  | date (d : Day)
  | time (c : Clock)
  | dateTime (d : Day) (c : Clock) (offset : Option Int)
  deriving DecidableEq, Repr, Inhabited

def Moment.padded (width n : Nat) : String :=
  let t := toString n
  String.ofList (List.replicate (width - t.length) '0') ++ t

def Day.text (d : Day) : String :=
  Moment.padded 4 d.year ++ "-" ++ Moment.padded 2 d.month ++ "-" ++ Moment.padded 2 d.day

/-- `HH:MM:SS`, with six digits of microseconds when there are some. -/
def Clock.text (c : Clock) : String :=
  Moment.padded 2 c.hour ++ ":" ++ Moment.padded 2 c.minute ++ ":" ++ Moment.padded 2 c.second ++
    (if c.micros == 0 then "" else "." ++ Moment.padded 6 c.micros)

namespace Moment

/-- An offset of `m` minutes as `±HH:MM`. -/
def offsetText (m : Int) : String :=
  (if m < 0 then "-" else "+") ++ padded 2 (m.natAbs / 60) ++ ":" ++ padded 2 (m.natAbs % 60)

def typeName : Moment → String
  | .date _ => "datetime.date"
  | .time _ => "datetime.time"
  | .dateTime .. => "datetime.datetime"

def joined (sep : String) : Moment → String
  | .date d => d.text
  | .time c => c.text
  | .dateTime d c z => d.text ++ sep ++ c.text ++ ((z.map offsetText).getD "")

def text (m : Moment) : String := m.joined " "

def iso (m : Moment) : String := m.joined "T"

/-- The fields of a time a constructor call shows: trailing zero ones left out, hour and minute
always there. -/
def clockFields (c : Clock) : List Nat :=
  if c.micros != 0 then [c.hour, c.minute, c.second, c.micros]
  else if c.second != 0 then [c.hour, c.minute, c.second]
  else [c.hour, c.minute]

/-- The quoted form of a fixed offset of `m` minutes: UTC, or the offset as days and seconds. -/
def zoneRepr (m : Int) : String :=
  if m == 0 then "datetime.timezone.utc"
  else
    let total := m * 60
    let days := total / 86400 - (if total % 86400 < 0 then 1 else 0)
    let seconds := total - days * 86400
    let parts := (if days != 0 then [s!"days={days}"] else []) ++
      (if seconds != 0 then [s!"seconds={seconds}"] else [])
    "datetime.timezone(datetime.timedelta(" ++ ", ".intercalate parts ++ "))"

/-- Days from 1970-01-01 to a day of the proleptic Gregorian calendar. -/
def dayNumber (d : Day) : Int :=
  let y : Int := d.year - (if d.month ≤ 2 then 1 else 0)
  let era := y / 400
  let yoe := y - era * 400
  let mp : Int := if d.month > 2 then d.month - 3 else d.month + 9
  let doy := (153 * mp + 2) / 5 + d.day - 1
  era * 146097 + yoe * 365 + yoe / 4 - yoe / 100 + doy - 719468

/-- Where a moment lies in time, as fields compared in order: a time with an offset moved to
UTC. -/
def position : Moment → List Int
  | .date d => [d.year, d.month, d.day]
  | .time c => [c.hour, c.minute, c.second, c.micros]
  | .dateTime d c z => [(dayNumber d * 1440 + c.hour * 60 + c.minute) - z.getD 0, c.second, c.micros]

def lexicographic : List Int → List Int → Ordering
  | x :: xs, y :: ys => if x == y then lexicographic xs ys else compare x y
  | [], [] => .eq
  | [], _ => .lt
  | _, [] => .gt

/-- The order of two moments of one kind; dates with times compare only when both or neither
have an offset. -/
def order (a b : Moment) : Option Ordering :=
  let same := match a, b with
    | .date _, .date _ | .time _, .time _ => true
    | .dateTime _ _ z, .dateTime _ _ w => z.isSome == w.isSome
    | _, _ => false
  if same then some (lexicographic a.position b.position) else none

def repr (m : Moment) : String :=
  let call := fun (fields : List Nat) (rest : String) =>
    m.typeName ++ "(" ++ ", ".intercalate (fields.map toString) ++ rest ++ ")"
  match m with
  | .date d => call [d.year, d.month, d.day] ""
  | .time c => call (clockFields c) ""
  | .dateTime d c z =>
    call ([d.year, d.month, d.day] ++ clockFields c) ((z.map fun o => ", tzinfo=" ++ zoneRepr o).getD "")

end Moment

end DesktopPool
