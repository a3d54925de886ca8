import ContractAudit.Number.Reading
import ContractAudit.Text.Case

/-!
# Styles

The name of a style is a list of words: attributes, each of which `not` turns off,
a colour, `on` with the colour of the ground, and `link` with an address.  Names
that stand for the same style have one normal form.  A name that stands for no
style is its own normal form, in small letters.

Main definitions:

- {lit}`readColour`: whether a word is a colour.
- {lit}`readStyle`: the style of a list of words.
- {lit}`normalStyle`: the normal form of a name.
-/

namespace ContractAudit
namespace Command

open Text (isBlank trim small)

/-! ## Colours -/

/-- The colours that have a name. -/
def colourNames : List String :=
  [ "black", "red", "green", "yellow", "blue", "magenta", "cyan", "white", "bright_black",
    "bright_red", "bright_green", "bright_yellow", "bright_blue", "bright_magenta", "bright_cyan",
    "bright_white", "grey0", "gray0", "navy_blue", "dark_blue", "blue3", "blue1", "dark_green",
    "deep_sky_blue4", "dodger_blue3", "dodger_blue2", "green4", "spring_green4", "turquoise4",
    "deep_sky_blue3", "dodger_blue1", "green3", "spring_green3", "dark_cyan", "light_sea_green",
    "deep_sky_blue2", "deep_sky_blue1", "spring_green2", "cyan3", "dark_turquoise", "turquoise2",
    "green1", "spring_green1", "medium_spring_green", "cyan2", "cyan1", "dark_red", "deep_pink4",
    "purple4", "purple3", "blue_violet", "orange4", "grey37", "gray37", "medium_purple4",
    "slate_blue3", "royal_blue1", "chartreuse4", "dark_sea_green4", "pale_turquoise4",
    "steel_blue", "steel_blue3", "cornflower_blue", "chartreuse3", "cadet_blue", "sky_blue3",
    "steel_blue1", "pale_green3", "sea_green3", "aquamarine3", "medium_turquoise", "chartreuse2",
    "sea_green2", "sea_green1", "aquamarine1", "dark_slate_gray2", "dark_magenta", "dark_violet",
    "purple", "light_pink4", "plum4", "medium_purple3", "slate_blue1", "yellow4", "wheat4",
    "grey53", "gray53", "light_slate_grey", "light_slate_gray", "medium_purple",
    "light_slate_blue", "dark_olive_green3", "dark_sea_green", "light_sky_blue3", "sky_blue2",
    "dark_sea_green3", "dark_slate_gray3", "sky_blue1", "chartreuse1", "light_green",
    "pale_green1", "dark_slate_gray1", "red3", "medium_violet_red", "magenta3", "dark_orange3",
    "indian_red", "hot_pink3", "medium_orchid3", "medium_orchid", "medium_purple2",
    "dark_goldenrod", "light_salmon3", "rosy_brown", "grey63", "gray63", "medium_purple1",
    "gold3", "dark_khaki", "navajo_white3", "grey69", "gray69", "light_steel_blue3",
    "light_steel_blue", "yellow3", "dark_sea_green2", "light_cyan3", "light_sky_blue1",
    "green_yellow", "dark_olive_green2", "dark_sea_green1", "pale_turquoise1", "deep_pink3",
    "magenta2", "hot_pink2", "orchid", "medium_orchid1", "orange3", "light_pink3", "pink3",
    "plum3", "violet", "light_goldenrod3", "tan", "misty_rose3", "thistle3", "plum2", "khaki3",
    "light_goldenrod2", "light_yellow3", "grey84", "gray84", "light_steel_blue1", "yellow2",
    "dark_olive_green1", "honeydew2", "light_cyan1", "red1", "deep_pink2", "deep_pink1",
    "magenta1", "orange_red1", "indian_red1", "hot_pink", "dark_orange", "salmon1", "light_coral",
    "pale_violet_red1", "orchid2", "orchid1", "orange1", "sandy_brown", "light_salmon1",
    "light_pink1", "pink1", "plum1", "gold1", "navajo_white1", "misty_rose1", "thistle1",
    "yellow1", "light_goldenrod1", "khaki1", "wheat1", "cornsilk1", "grey100", "gray100", "grey3",
    "gray3", "grey7", "gray7", "grey11", "gray11", "grey15", "gray15", "grey19", "gray19",
    "grey23", "gray23", "grey27", "gray27", "grey30", "gray30", "grey35", "gray35", "grey39",
    "gray39", "grey42", "gray42", "grey46", "gray46", "grey50", "gray50", "grey54", "gray54",
    "grey58", "gray58", "grey62", "gray62", "grey66", "gray66", "grey70", "gray70", "grey74",
    "gray74", "grey78", "gray78", "grey82", "gray82", "grey85", "gray85", "grey89", "gray89",
    "grey93", "gray93" ]

/-- The largest number of a colour, and of each of its components. -/
def colourLimit : Nat := 255

/-- The inside of a word that starts and ends as it should. -/
def insideOf? (opening : String) (word : List Char) : Option (List Char) :=
  match opening.toList.isPrefixOf? word with
  | some rest => if rest.getLast? == some ')' then some rest.dropLast else none
  | none => none

/-- Whether the components of a colour are three numbers that are not too large.  A
component that is no number fails. -/
def readComponents (components : List (List Char)) : Except String Bool :=
  match components with
  | [red, green, blue] => do
    let values ← [red, green, blue].mapM fun cs =>
      (Number.readInt (String.ofList cs)).mapError Number.ReadError.message
    return values.all fun n => n ≤ colourLimit
  | _ => .ok false

/-- Whether a word in small letters is a colour: a name, six hexadecimal digits, a number
or three components. -/
def readColour (word : List Char) : Except String Bool :=
  let isHex (c : Char) : Bool := c.isDigit || ('a' ≤ c && c ≤ 'f')
  let isComponent (c : Char) : Bool := (Text.digitValue? c).isSome || c == ','
  if word == "default".toList || colourNames.contains (String.ofList word) then .ok true
  else match word with
    | '#' :: digits => .ok (digits.length == 6 && digits.all isHex)
    | _ => match insideOf? "color(" word, insideOf? "rgb(" word with
      | some digits, _ =>
        .ok (!digits.isEmpty && digits.length ≤ 3 && digits.all Char.isDigit
          && Number.digitsValue digits ≤ colourLimit)
      | none, some inside =>
        if inside.isEmpty || !inside.all isComponent then .ok false
        else readComponents (inside.splitOn ',')
      | none, none => .ok false

/-! ## Styles -/

/-- The attributes of a style, each with the words that stand for it. -/
def attributes : List (List String) :=
  [ ["bold", "b"], ["dim", "d"], ["italic", "i"], ["underline", "u"], ["blink"], ["blink2"],
    ["reverse", "r"], ["conceal", "c"], ["strike", "s"], ["underline2", "uu"], ["frame"],
    ["encircle"], ["overline", "o"] ]

/-- The attribute that a word stands for. -/
def attributeOf? (word : String) : Option String :=
  (attributes.find? fun names => names.contains word).bind List.head?

/-- A style: the attributes that are turned on or off, the last one first, the colours of
the text and of the ground, and an address. -/
structure Style where
  switches : List (String × Bool) := []
  colour : Option String := none
  ground : Option String := none
  link : Option String := none

/-- Turns an attribute on or off. -/
def Style.turn (s : Style) (name : String) (on : Bool) : Style :=
  { s with switches := (name, on) :: s.switches }

/-- What is said of an attribute in the text of a style. -/
def Style.switchText? (s : Style) (names : List String) : Option String := do
  let name ← names.head?
  let (_, on) ← s.switches.find? fun entry => entry.1 == name
  return if on then name else "not " ++ name

/-- The text of a style. -/
def Style.text (s : Style) : String :=
  let parts := attributes.filterMap s.switchText? ++ s.colour.toList
    ++ (s.ground.map fun c => "on " ++ c).toList ++ (s.link.map fun l => "link " ++ l).toList
  if parts.isEmpty then "none" else " ".intercalate parts

/-- Adds words to a style; there is none where a word cannot be understood. -/
def readStyle : Style → List (List Char) → Except String (Option Style)
  | s, [] => .ok (some s)
  | s, word :: rest =>
    let low := small word
    if low == "on".toList then
      match rest with
      | [] => .ok none
      | ground :: rest => do
        if ← readColour (small ground) then
          readStyle { s with ground := some (String.ofList (small ground)) } rest
        else return none
    else if low == "not".toList then
      match rest with
      | [] => .ok none
      | name :: rest => match attributeOf? (String.ofList name) with
        | some a => readStyle (s.turn a false) rest
        | none => .ok none
    else if low == "link".toList then
      match rest with
      | [] => .ok none
      | address :: rest => readStyle { s with link := some (String.ofList address) } rest
    else match attributeOf? (String.ofList low) with
      | some a => readStyle (s.turn a true) rest
      | none => do
        if ← readColour low then readStyle { s with colour := some (String.ofList low) } rest
        else return none

/-- The words of a text. -/
def wordsOf (cs : List Char) : List (List Char) :=
  (cs.splitOnP isBlank).filter fun w => !w.isEmpty

/-- The normal form of the name of a style.  Names that stand for the same style have the
same normal form; a name that stands for none is taken in small letters. -/
def normalStyle (cs : List Char) : Except String String := do
  match ← readStyle {} (wordsOf cs) with
  | some style => return style.text
  | none => return String.ofList (small (trim cs))

end Command
end ContractAudit
