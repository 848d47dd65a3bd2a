import DesktopPool.Fault
import DesktopPool.Text.Blank
import DesktopPool.Text.Quoted
import DesktopPool.Number.Read

/-! Console styles as markup tags write them, brought to a normal form so that two tags that
style alike close each other.

A style is a list of words, read in lower case: an attribute (or one of its short names) sets
it, `not` and an attribute clears it, `on` and a color sets the background, `link` and an
address sets a link, and any other word is the foreground color. A later word overrides an
earlier one of the same kind. The normal form lists the attributes set or cleared in a fixed
order (`not` before a cleared one), then the color, then `on` and the background, then `link`
and the address; an empty style is `none`. Text that is no style is normalised by trimming it
and writing it in lower case.

A color is `default`, one of the named colors, `#` and six hexadecimal digits, `color(n)` for
`n` of at most three ASCII digits up to 255, or `rgb(r,g,b)` of three decimal components up to
255. A component that does not read as a whole number (an empty one, or one of too many digits)
is not merely a bad color: it stops the program with a value fault. -/
namespace DesktopPool.Style

def attributes : List String :=
  ["bold", "dim", "italic", "underline", "blink", "blink2", "reverse", "conceal", "strike",
    "underline2", "frame", "encircle", "overline"]

/-- The attribute a word names: an attribute itself or its short name. -/
def attributeNamed (word : String) : Option String :=
  if attributes.contains word then some word
  else match word with
    | "d" => some "dim"
    | "b" => some "bold"
    | "i" => some "italic"
    | "u" => some "underline"
    | "r" => some "reverse"
    | "c" => some "conceal"
    | "s" => some "strike"
    | "uu" => some "underline2"
    | "o" => some "overline"
    | _ => none

def colorNames : List String := [
  "aquamarine1", "aquamarine3", "black", "blue", "blue1", "blue3", "blue_violet", "bright_black",
  "bright_blue", "bright_cyan", "bright_green", "bright_magenta", "bright_red", "bright_white",
  "bright_yellow", "cadet_blue", "chartreuse1", "chartreuse2", "chartreuse3", "chartreuse4",
  "cornflower_blue", "cornsilk1", "cyan", "cyan1", "cyan2", "cyan3", "dark_blue", "dark_cyan",
  "dark_goldenrod", "dark_green", "dark_khaki", "dark_magenta", "dark_olive_green1",
  "dark_olive_green2", "dark_olive_green3", "dark_orange", "dark_orange3", "dark_red",
  "dark_sea_green", "dark_sea_green1", "dark_sea_green2", "dark_sea_green3", "dark_sea_green4",
  "dark_slate_gray1", "dark_slate_gray2", "dark_slate_gray3", "dark_turquoise", "dark_violet",
  "deep_pink1", "deep_pink2", "deep_pink3", "deep_pink4", "deep_sky_blue1", "deep_sky_blue2",
  "deep_sky_blue3", "deep_sky_blue4", "dodger_blue1", "dodger_blue2", "dodger_blue3", "gold1",
  "gold3", "gray0", "gray100", "gray11", "gray15", "gray19", "gray23", "gray27", "gray3", "gray30",
  "gray35", "gray37", "gray39", "gray42", "gray46", "gray50", "gray53", "gray54", "gray58",
  "gray62", "gray63", "gray66", "gray69", "gray7", "gray70", "gray74", "gray78", "gray82",
  "gray84", "gray85", "gray89", "gray93", "green", "green1", "green3", "green4", "green_yellow",
  "grey0", "grey100", "grey11", "grey15", "grey19", "grey23", "grey27", "grey3", "grey30",
  "grey35", "grey37", "grey39", "grey42", "grey46", "grey50", "grey53", "grey54", "grey58",
  "grey62", "grey63", "grey66", "grey69", "grey7", "grey70", "grey74", "grey78", "grey82",
  "grey84", "grey85", "grey89", "grey93", "honeydew2", "hot_pink", "hot_pink2", "hot_pink3",
  "indian_red", "indian_red1", "khaki1", "khaki3", "light_coral", "light_cyan1", "light_cyan3",
  "light_goldenrod1", "light_goldenrod2", "light_goldenrod3", "light_green", "light_pink1",
  "light_pink3", "light_pink4", "light_salmon1", "light_salmon3", "light_sea_green",
  "light_sky_blue1", "light_sky_blue3", "light_slate_blue", "light_slate_gray", "light_slate_grey",
  "light_steel_blue", "light_steel_blue1", "light_steel_blue3", "light_yellow3", "magenta",
  "magenta1", "magenta2", "magenta3", "medium_orchid", "medium_orchid1", "medium_orchid3",
  "medium_purple", "medium_purple1", "medium_purple2", "medium_purple3", "medium_purple4",
  "medium_spring_green", "medium_turquoise", "medium_violet_red", "misty_rose1", "misty_rose3",
  "navajo_white1", "navajo_white3", "navy_blue", "orange1", "orange3", "orange4", "orange_red1",
  "orchid", "orchid1", "orchid2", "pale_green1", "pale_green3", "pale_turquoise1",
  "pale_turquoise4", "pale_violet_red1", "pink1", "pink3", "plum1", "plum2", "plum3", "plum4",
  "purple", "purple3", "purple4", "red", "red1", "red3", "rosy_brown", "royal_blue1", "salmon1",
  "sandy_brown", "sea_green1", "sea_green2", "sea_green3", "sky_blue1", "sky_blue2", "sky_blue3",
  "slate_blue1", "slate_blue3", "spring_green1", "spring_green2", "spring_green3", "spring_green4",
  "steel_blue", "steel_blue1", "steel_blue3", "tan", "thistle1", "thistle3", "turquoise2",
  "turquoise4", "violet", "wheat1", "wheat4", "white", "yellow", "yellow1", "yellow2", "yellow3",
  "yellow4"]

/-- Why text is no style: it breaks the style syntax (and is then normalised as text), or it
stops the program. -/
inductive Refusal where
  | malformed
  | fault (f : Fault)

/-- The components of `rgb(...)` read as whole numbers. -/
def components : List String → Except Refusal (List Int)
  | [] => .ok []
  | c :: rest => do
    let n ← match NumberText.readWhole c with
      | .value n => pure n
      | .invalid => throw (.fault (.make .badValue
          ("invalid literal for int() with base 10: " ++ Text.quote c)))
      | .tooLong digits => throw (.fault (.make .badValue (NumberText.tooLongMessage digits)))
    pure (n :: (← components rest))

def exactly (n : Nat) (ok : Char → Bool) (cs : List Char) : Bool := cs.length == n && cs.all ok

def isHexLower (c : Char) : Bool := c.isDigit || ('a' ≤ c && c ≤ 'f')

/-- The name of the color a word writes: the word trimmed and in lower case. -/
def color (word : String) : Except Refusal String := do
  let name := Unicode.lower (Text.trim word)
  let cs := name.toList
  if name == "default" || colorNames.contains name then return name
  match cs with
  | '#' :: hex => if exactly 6 isHexLower hex then return name else throw .malformed
  | _ => pure ()
  if name.startsWith "color(" && name.endsWith ")" then
    let digits := ((cs.drop 6).dropLast)
    if 1 ≤ digits.length && digits.length ≤ 3 && digits.all Char.isDigit then
      if (NumberText.readInt? (String.ofList digits)).getD 0 > 255 then throw .malformed
      else return name
  if name.startsWith "rgb(" && name.endsWith ")" then
    let inner := (cs.drop 4).dropLast
    if !inner.isEmpty && inner.all (fun c => (Unicode.decimalValue c).isSome || Text.isBlank c || c == ',') then
      let parts := (String.ofList inner).splitOn ","
      if parts.length != 3 then throw .malformed
      let ns ← components parts
      if ns.all (· ≤ 255) then return name else throw .malformed
  throw .malformed

/-- What a style sets: attributes set (`true`) or cleared (`false`), foreground, background and
link. -/
structure Parts where
  marks : List (String × Bool) := []
  fore : Option String := none
  back : Option String := none
  link : Option String := none

/-- The words of a style read into what it sets. -/
def read : List String → Parts → Except Refusal Parts
  | [], p => .ok p
  | original :: rest, p =>
    let word := Unicode.lower original
    if word == "on" then
      match rest with
      | next :: more => do
        let _ ← color next
        read more { p with back := some next }
      | [] => throw .malformed
    else if word == "not" then
      match rest with
      | next :: more =>
        match attributeNamed next with
        | some a => read more { p with marks := (a, false) :: p.marks.filter (·.1 != a) }
        | none => throw .malformed
      | [] => throw .malformed
    else if word == "link" then
      match rest with
      | next :: more => read more { p with link := some next }
      | [] => throw .malformed
    else match attributeNamed word with
      | some a => read rest { p with marks := (a, true) :: p.marks.filter (·.1 != a) }
      | none => do
        let _ ← color word
        read rest { p with fore := some word }

def Parts.text (p : Parts) : Except Refusal String := do
  let marks := attributes.filterMap fun a =>
    (p.marks.lookup a).map fun on => if on then a else "not " ++ a
  let fore ← match p.fore with
    | some c => do pure [← color c]
    | none => pure []
  let back ← match p.back with
    | some c => do pure ["on", ← color c]
    | none => pure []
  let link := match p.link with
    | some l => ["link", l]
    | none => []
  let all := marks ++ fore ++ back ++ link
  pure (if all.isEmpty then "none" else " ".intercalate all)

/-- The normal form of a style, or of text that is no style; a fault when reading it stops the
program. -/
def normalize (text : String) : Outcome String :=
  let parsed : Except Refusal String :=
    if Text.trim text == "none" || text.isEmpty then pure "none"
    else do (← read (Text.words text) {}).text
  match parsed with
  | .ok s => .ok s
  | .error .malformed => .ok (Unicode.lower (Text.trim text))
  | .error (.fault f) => .error f

end DesktopPool.Style
