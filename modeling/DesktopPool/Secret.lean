import DesktopPool.Text.Blank

/-! Messages safe to log. A message gets the trimmed error output of its process appended
(after `: `) when there is any; then every secret assignment is masked; then a message longer
than 200 characters is cut there and marked with `...`. A secret assignment is one of the words
`secret`, `password`, `token`, `key`, `authorization` in any case, then `=` or `:`, blanks, and a
run of non-blank characters: the run becomes `***`, the rest stays. -/
namespace DesktopPool.Secret

def words : List String := ["secret", "password", "token", "key", "authorization"]

/-- Whether `c` matches the lower-case letter `p` regardless of case, the dotless and dotted
i, the long s and the Kelvin sign included. -/
def letterMatches (p c : Char) : Bool :=
  let n := c.toNat
  c.toLower == p || (p == 'i' && (n == 0x130 || n == 0x131)) || (p == 's' && n == 0x17F) ||
    (p == 'k' && n == 0x212A)

def startsWithWord (w : List Char) (cs : List Char) : Bool :=
  w.length ≤ cs.length && (w.zip cs).all fun (p, c) => letterMatches p c

/-- A secret assignment at the start of `cs`: the kept prefix (word, mark, blanks) and what
follows the masked run. -/
def assignment (cs : List Char) : Option (List Char × List Char) :=
  words.findSome? fun w =>
    let w := w.toList
    if !startsWithWord w cs then none
    else
      let rest := cs.drop w.length
      match rest with
      | m :: after =>
        if m == '=' || m == ':' then
          let blanks := after.takeWhile Text.isBlank
          let tail := after.dropWhile Text.isBlank
          let run := tail.takeWhile (!Text.isBlank ·)
          if run.isEmpty then none
          else some (cs.take w.length ++ [m] ++ blanks, tail.dropWhile (!Text.isBlank ·))
        else none
      | [] => none

/-- Mask every secret assignment, scanning from the left; `fuel` counts the characters left,
and each step consumes at least one. -/
def maskWith : Nat → List Char → List Char
  | 0, cs => cs
  | _, [] => []
  | fuel + 1, c :: rest =>
    match assignment (c :: rest) with
    | some (kept, after) => kept ++ "***".toList ++ maskWith fuel after
    | none => c :: maskWith fuel rest

def mask (s : String) : String := String.ofList (maskWith (s.length + 1) s.toList)

def limit : Nat := 200

/-- The loggable form of a message and the error output of its process. -/
def safeMessage (message : String) (stderr : Option String) : String :=
  let withOutput := match stderr with
    | some e => if (Text.trim e).isEmpty then message else message ++ ": " ++ Text.trim e
    | none => message
  let masked := mask withOutput
  if masked.length > limit then String.ofList (masked.toList.take limit) ++ "..." else masked

end DesktopPool.Secret
