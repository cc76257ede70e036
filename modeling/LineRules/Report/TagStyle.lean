import LineRules.Text.Blank
import LineRules.Text.Case
import LineRules.Text.Digit
import LineRules.Text.Split

/-!
# Styles of tags

A tag in a text for the terminal is a style in words: attributes such as `bold` or
`not dim`, a colour, a colour after `on` for the background, and the address of a link. Two
spellings of one style are the same tag, so `[b]` is closed by `[/bold]`.
-/

namespace LineRules.Report

open LineRules.Text

/-- A style that a tag asks for. -/
structure TagStyle where
  /-- The attributes that are turned on or off; the last mention of one counts. -/
  attributes : List (String × Bool) := []
  color : Option (List Char) := none
  background : Option (List Char) := none
  link : Option (List Char) := none
deriving Repr, DecidableEq

namespace TagStyle

/-- The attributes, in the order in which they are named, with their short names. -/
def knownAttributes : List (String × List String) :=
  [("bold", ["b"]), ("dim", ["d"]), ("italic", ["i"]), ("underline", ["u"]), ("blink", []),
    ("blink2", []), ("reverse", ["r"]), ("conceal", ["c"]), ("strike", ["s"]),
    ("underline2", ["uu"]), ("frame", []), ("encircle", []), ("overline", ["o"])]

/-- The attribute that a word names. -/
def attribute? (word : String) : Option String :=
  (knownAttributes.find? fun (name, short) => name = word || short.contains word).map Prod.fst

/-- The names of colours. -/
def colorNames : List String :=
  [
   "black red green yellow blue magenta cyan white bright_black bright_red bright_green",
   "bright_yellow bright_blue bright_magenta bright_cyan bright_white grey0 gray0 navy_blue",
   "dark_blue blue3 blue1 dark_green deep_sky_blue4 dodger_blue3 dodger_blue2 green4",
   "spring_green4 turquoise4 deep_sky_blue3 dodger_blue1 green3 spring_green3 dark_cyan",
   "light_sea_green deep_sky_blue2 deep_sky_blue1 spring_green2 cyan3 dark_turquoise",
   "turquoise2 green1 spring_green1 medium_spring_green cyan2 cyan1 dark_red deep_pink4",
   "purple4 purple3 blue_violet orange4 grey37 gray37 medium_purple4 slate_blue3 royal_blue1",
   "chartreuse4 dark_sea_green4 pale_turquoise4 steel_blue steel_blue3 cornflower_blue",
   "chartreuse3 cadet_blue sky_blue3 steel_blue1 pale_green3 sea_green3 aquamarine3",
   "medium_turquoise chartreuse2 sea_green2 sea_green1 aquamarine1 dark_slate_gray2",
   "dark_magenta dark_violet purple light_pink4 plum4 medium_purple3 slate_blue1 yellow4",
   "wheat4 grey53 gray53 light_slate_grey light_slate_gray medium_purple light_slate_blue",
   "dark_olive_green3 dark_sea_green light_sky_blue3 sky_blue2 dark_sea_green3",
   "dark_slate_gray3 sky_blue1 chartreuse1 light_green pale_green1 dark_slate_gray1 red3",
   "medium_violet_red magenta3 dark_orange3 indian_red hot_pink3 medium_orchid3",
   "medium_orchid medium_purple2 dark_goldenrod light_salmon3 rosy_brown grey63 gray63",
   "medium_purple1 gold3 dark_khaki navajo_white3 grey69 gray69 light_steel_blue3",
   "light_steel_blue yellow3 dark_sea_green2 light_cyan3 light_sky_blue1 green_yellow",
   "dark_olive_green2 dark_sea_green1 pale_turquoise1 deep_pink3 magenta2 hot_pink2 orchid",
   "medium_orchid1 orange3 light_pink3 pink3 plum3 violet light_goldenrod3 tan misty_rose3",
   "thistle3 plum2 khaki3 light_goldenrod2 light_yellow3 grey84 gray84 light_steel_blue1",
   "yellow2 dark_olive_green1 honeydew2 light_cyan1 red1 deep_pink2 deep_pink1 magenta1",
   "orange_red1 indian_red1 hot_pink dark_orange salmon1 light_coral pale_violet_red1",
   "orchid2 orchid1 orange1 sandy_brown light_salmon1 light_pink1 pink1 plum1 gold1",
   "navajo_white1 misty_rose1 thistle1 yellow1 light_goldenrod1 khaki1 wheat1 cornsilk1",
   "grey100 gray100 grey3 gray3 grey7 gray7 grey11 gray11 grey15 gray15 grey19 gray19 grey23",
   "gray23 grey27 gray27 grey30 gray30 grey35 gray35 grey39 gray39 grey42 gray42 grey46",
   "gray46 grey50 gray50 grey54 gray54 grey58 gray58 grey62 gray62 grey66 gray66 grey70",
   "gray70 grey74 gray74 grey78 gray78 grey82 gray82 grey85 gray85 grey89 gray89 grey93",
   "gray93"]

/-- Whether the digits in a text make up a number that a byte can hold. -/
def isByte (digits : List Char) : Bool := digitsValue digits ≤ 255

/-- What stands between a beginning and a closing parenthesis. -/
def argument? (beginning : String) (word : List Char) : Option (List Char) :=
  if beginning.toList.isPrefixOf word && word.getLast? = some ')' then
    some (word.drop beginning.length).dropLast
  else none

/-- Whether a word in lower case is a colour: a name, a number in parentheses, the parts of
red, green and blue, or six digits in base sixteen. -/
def isColor (word : List Char) : Bool :=
  let named := word = "default".toList || colorNames.any fun line =>
    (split ' ' line.toList).contains word
  let numbered := match argument? "color(" word with
    | none => false
    | some digits =>
      1 ≤ digits.length && digits.length ≤ 3 && digits.all Char.isDigit && isByte digits
  let mixed := match argument? "rgb(" word with
    | none => false
    | some body =>
      let parts := split ',' body
      parts.length = 3 && parts.all fun part =>
        !part.isEmpty && part.all isDigit && isByte part
  let coded := match word with
    | '#' :: digits => digits.length = 6 && digits.all fun c => isHexDigit c
    | _ => false
  named || numbered || mixed || coded

/-- A style with one more attribute turned on or off. -/
def turn (style : TagStyle) (quality : String) (on : Bool) : TagStyle :=
  { style with attributes := (quality, on) :: style.attributes }

/-- Reads the words of a style. -/
def read? (style : TagStyle) : List (List Char) → Option TagStyle
  | [] => some style
  | word :: rest =>
    let small := lower word
    match String.ofList small, rest with
    | "on", color :: rest =>
      if isColor (lower color) then read? { style with background := some (lower color) } rest
      else none
    | "on", [] => none
    | "not", name :: rest =>
      match attribute? (String.ofList name) with
      | some quality => read? (style.turn quality false) rest
      | none => none
    | "not", [] => none
    | "link", address :: rest => read? { style with link := some address } rest
    | "link", [] => none
    | name, rest =>
      match attribute? name with
      | some quality => read? (style.turn quality true) rest
      | none => if isColor small then read? { style with color := some small } rest else none

/-- The words of a style in their usual order. -/
def words (style : TagStyle) : List (List Char) :=
  let attributes := knownAttributes.flatMap fun (name, _) =>
    match style.attributes.lookup name with
    | some true => [name.toList]
    | some false => ["not".toList, name.toList]
    | none => []
  let background := match style.background with
    | some color => ["on".toList, color]
    | none => []
  let link := match style.link with
    | some address => ["link".toList, address]
    | none => []
  attributes ++ style.color.toList ++ background ++ link

end TagStyle

/-- The usual spelling of the style that a tag asks for. What is no style is taken in lower
case. -/
def tagName (written : List Char) : List Char :=
  match TagStyle.read? {} (words written) with
  | some style => [' '].intercalate style.words
  | none => lower (trim written)

end LineRules.Report
