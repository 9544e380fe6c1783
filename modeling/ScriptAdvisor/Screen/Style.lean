import ScriptAdvisor.Fault
import ScriptAdvisor.Text.Case

/-! # Styles

A style is described by words: looks such as `bold`, which `not` takes back, a colour, a
background behind `on` and an address behind `link`. Two descriptions of one style have the same
normal form.

* `Style` is what a description says, `Style.parse` reads one; `StyleError` says why that fails.
* `Style.normalForm` is the normal form of a description. -/

namespace ScriptAdvisor

/-- What letters can look like. -/
inductive Look where
  /-- Heavy. -/
  | bold
  /-- Faint. -/
  | dim
  /-- Slanted. -/
  | italic
  /-- With a line below. -/
  | underline
  /-- Blinking. -/
  | blink
  /-- Blinking fast. -/
  | blink2
  /-- With the colours exchanged. -/
  | reverse
  /-- Invisible. -/
  | conceal
  /-- With a line through. -/
  | strike
  /-- With two lines below. -/
  | underline2
  /-- In a frame. -/
  | frame
  /-- In a circle. -/
  | encircle
  /-- With a line above. -/
  | overline
  deriving DecidableEq, Repr, Inhabited

namespace Look

/-- Every look, in the order of the normal form. -/
def all : List Look :=
  [bold, dim, italic, underline, blink, blink2, reverse, conceal, strike, underline2, frame,
    encircle, overline]

/-- The names of a look, the full one first. -/
def names : Look → List String
  | bold => ["bold", "b"]
  | dim => ["dim", "d"]
  | italic => ["italic", "i"]
  | underline => ["underline", "u"]
  | blink => ["blink"]
  | blink2 => ["blink2"]
  | reverse => ["reverse", "r"]
  | conceal => ["conceal", "c"]
  | strike => ["strike", "s"]
  | underline2 => ["underline2", "uu"]
  | frame => ["frame"]
  | encircle => ["encircle"]
  | overline => ["overline", "o"]

/-- The full name of a look. -/
def name (look : Look) : String := look.names.headD ""

/-- The look with a name. -/
def ofName? (name : String) : Option Look :=
  all.find? fun look => look.names.contains name

end Look

/-- Why a description is no style. -/
inductive StyleError where
  /-- A word has no meaning where it stands. -/
  | malformed
  /-- A part of a colour is no number. -/
  | number (fault : Fault)
  deriving DecidableEq, Repr, Inhabited

namespace Colour

/-- The names of colours. -/
def names : List String :=
  ["black red green yellow blue magenta cyan white bright_black bright_red bright_green",
    "bright_yellow bright_blue bright_magenta bright_cyan bright_white grey0 gray0 navy_blue",
    "dark_blue blue3 blue1 dark_green deep_sky_blue4 dodger_blue3 dodger_blue2 green4",
    "spring_green4 turquoise4 deep_sky_blue3 dodger_blue1 green3 spring_green3 dark_cyan",
    "light_sea_green deep_sky_blue2 deep_sky_blue1 spring_green2 cyan3 dark_turquoise turquoise2",
    "green1 spring_green1 medium_spring_green cyan2 cyan1 dark_red deep_pink4 purple4 purple3",
    "blue_violet orange4 grey37 gray37 medium_purple4 slate_blue3 royal_blue1 chartreuse4",
    "dark_sea_green4 pale_turquoise4 steel_blue steel_blue3 cornflower_blue chartreuse3 cadet_blue",
    "sky_blue3 steel_blue1 pale_green3 sea_green3 aquamarine3 medium_turquoise chartreuse2",
    "sea_green2 sea_green1 aquamarine1 dark_slate_gray2 dark_magenta dark_violet purple",
    "light_pink4 plum4 medium_purple3 slate_blue1 yellow4 wheat4 grey53 gray53 light_slate_grey",
    "light_slate_gray medium_purple light_slate_blue dark_olive_green3 dark_sea_green",
    "light_sky_blue3 sky_blue2 dark_sea_green3 dark_slate_gray3 sky_blue1 chartreuse1 light_green",
    "pale_green1 dark_slate_gray1 red3 medium_violet_red magenta3 dark_orange3 indian_red",
    "hot_pink3 medium_orchid3 medium_orchid medium_purple2 dark_goldenrod light_salmon3 rosy_brown",
    "grey63 gray63 medium_purple1 gold3 dark_khaki navajo_white3 grey69 gray69 light_steel_blue3",
    "light_steel_blue yellow3 dark_sea_green2 light_cyan3 light_sky_blue1 green_yellow",
    "dark_olive_green2 dark_sea_green1 pale_turquoise1 deep_pink3 magenta2 hot_pink2 orchid",
    "medium_orchid1 orange3 light_pink3 pink3 plum3 violet light_goldenrod3 tan misty_rose3",
    "thistle3 plum2 khaki3 light_goldenrod2 light_yellow3 grey84 gray84 light_steel_blue1 yellow2",
    "dark_olive_green1 honeydew2 light_cyan1 red1 deep_pink2 deep_pink1 magenta1 orange_red1",
    "indian_red1 hot_pink dark_orange salmon1 light_coral pale_violet_red1 orchid2 orchid1 orange1",
    "sandy_brown light_salmon1 light_pink1 pink1 plum1 gold1 navajo_white1 misty_rose1 thistle1",
    "yellow1 light_goldenrod1 khaki1 wheat1 cornsilk1 grey100 gray100 grey3 gray3 grey7 gray7",
    "grey11 gray11 grey15 gray15 grey19 gray19 grey23 gray23 grey27 gray27 grey30 gray30 grey35",
    "gray35 grey39 gray39 grey42 gray42 grey46 gray46 grey50 gray50 grey54 gray54 grey58 gray58",
    "grey62 gray62 grey66 gray66 grey70 gray70 grey74 gray74 grey78 gray78 grey82 gray82 grey85",
    "gray85 grey89 gray89 grey93 gray93"]

/-- Whether a text is the name of a colour. -/
def isNamed (text : List Char) : Bool :=
  names.any fun line => (Text.words line.toList).contains text

/-- Whether a colour is written as a sharp sign and six hexadecimal digits. -/
def isHex : List Char → Bool
  | '#' :: digits => digits.length == 6 && digits.all fun c => (Text.hexValue? c).isSome
  | _ => false

/-- What stands between brackets behind a word. -/
def argument? (word : String) (text : List Char) : Option (List Char) :=
  let opening := word.toList ++ ['(']
  if opening.isPrefixOf text && text.getLast? == some ')' && opening.length < text.length then
    some ((text.drop opening.length).dropLast)
  else none

/-- Whether a text is one to three ASCII digits that denote at most 255. -/
def isNumber (text : List Char) : Bool :=
  !text.isEmpty && text.length ≤ 3 && text.all Char.isDigit
    && Text.ofDigitsIn 10 (text.filterMap Text.asciiDigit?) ≤ 255

/-- Check the three numbers of a colour given by its parts. -/
def checkParts (text : List Char) : Except StyleError Unit := do
  let isPart (c : Char) : Bool := (Text.digitValue? c).isSome || c == ','
  if text.isEmpty || !text.all isPart then .error .malformed
  else
    match (String.ofList text).splitOn "," with
    | [red, green, blue] =>
      let parts ← ([red, green, blue].mapM Text.toInt).mapError .number
      if parts.all (· ≤ 255) then .ok () else .error .malformed
    | _ => .error .malformed

/-- Check that a text in lower case is a colour. -/
def check (text : List Char) : Except StyleError Unit :=
  if text == "default".toList || isNamed text || isHex text then .ok ()
  else
    match argument? "color" text, argument? "rgb" text with
    | some number, _ => if isNumber number then .ok () else .error .malformed
    | none, some parts => checkParts parts
    | none, none => .error .malformed

end Colour

/-- What a description of a style says. -/
structure Style where
  /-- The looks that are set or taken back; of two on the same look the last counts. -/
  looks : List (Look × Bool) := []
  /-- The colour. -/
  colour : Option (List Char) := none
  /-- The colour of the background. -/
  background : Option (List Char) := none
  /-- The address behind the text. -/
  link : Option (List Char) := none
  deriving DecidableEq, Repr, Inhabited

namespace Style

/-- The style with a look set or taken back. -/
def withLook (style : Style) (look : Look) (isSet : Bool) : Style :=
  { style with looks := (look, isSet) :: style.looks }

/-- The style that words describe, beyond what earlier words said. Case matters behind `not` and
`link` only. -/
def ofWords (style : Style) : List (List Char) → Except StyleError Style
  | [] => .ok style
  | word :: rest =>
    let word := Text.lower word
    if word == "on".toList then
      match rest with
      | [] => .error .malformed
      | colour :: rest => do
        Colour.check (Text.lower colour)
        ofWords { style with background := some (Text.lower colour) } rest
    else if word == "not".toList then
      match rest with
      | [] => .error .malformed
      | name :: rest =>
        match Look.ofName? (String.ofList name) with
        | some look => ofWords (style.withLook look false) rest
        | none => .error .malformed
    else if word == "link".toList then
      match rest with
      | [] => .error .malformed
      | address :: rest => ofWords { style with link := some address } rest
    else
      match Look.ofName? (String.ofList word) with
      | some look => ofWords (style.withLook look true) rest
      | none => do
        Colour.check word
        ofWords { style with colour := some word } rest

/-- The style a description says. -/
def parse (description : List Char) : Except StyleError Style :=
  if Text.trim description == "none".toList then .ok {} else ofWords {} (Text.words description)

/-- The word for a look, if the style says something about it. -/
def lookText? (style : Style) (look : Look) : Option String :=
  (style.looks.find? fun entry => entry.1 = look).map fun entry =>
    if entry.2 then look.name else "not " ++ look.name

/-- The words of a style in the order of the normal form. -/
def words (style : Style) : List String :=
  Look.all.filterMap style.lookText?
    ++ (style.colour.map String.ofList).toList
    ++ (style.background.map fun colour => "on " ++ String.ofList colour).toList
    ++ (style.link.map fun address => "link " ++ String.ofList address).toList

/-- The text of a style. -/
def text (style : Style) : String :=
  if style.words.isEmpty then "none" else " ".intercalate style.words

/-- The normal form of a description. What describes no style is taken in lower case. -/
def normalForm (description : List Char) : Except Fault String :=
  match parse description with
  | .ok style => .ok style.text
  | .error .malformed => .ok (String.ofList (Text.lower (Text.trim description)))
  | .error (.number fault) => .error fault

end Style

end ScriptAdvisor
