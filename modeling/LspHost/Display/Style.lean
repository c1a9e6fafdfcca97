import LspHost.Text.Blank
import LspHost.Text.Split
import LspHost.Json.Parser

/-!
The names of styles in markup. A style has many spellings; `Style.normalName` gives the one that
tells styles apart, and leaves names alone that are no styles.
-/

namespace LspHost.Display

namespace Style

/-- The attributes of a style, in the order in which they are named. -/
def attributeNames : List String :=
  ["bold", "dim", "italic", "underline", "blink", "blink2", "reverse", "conceal", "strike",
    "underline2", "frame", "encircle", "overline"]

/-- Short names of attributes. -/
def shortNames : List (String × String) :=
  [("d", "dim"), ("b", "bold"), ("i", "italic"), ("u", "underline"), ("r", "reverse"),
    ("c", "conceal"), ("s", "strike"), ("uu", "underline2"), ("o", "overline")]

/-- The attribute that a word names. -/
def attribute? (word : String) : Option String :=
  if attributeNames.contains word then some word else shortNames.lookup word

/-- Colours that have a plain and a bright form. -/
def basicColours : List String :=
  ["black", "red", "green", "yellow", "blue", "magenta", "cyan", "white"]

/-- The names of the other colours of a terminal. -/
def namedColours : List String := [
  "navy_blue", "dark_blue", "blue3", "blue1", "dark_green", "deep_sky_blue4", "dodger_blue3",
  "dodger_blue2", "green4", "spring_green4", "turquoise4", "deep_sky_blue3", "dodger_blue1",
  "green3", "spring_green3", "dark_cyan", "light_sea_green", "deep_sky_blue2", "deep_sky_blue1",
  "spring_green2", "cyan3", "dark_turquoise", "turquoise2", "green1", "spring_green1",
  "medium_spring_green", "cyan2", "cyan1", "dark_red", "deep_pink4", "purple4", "purple3",
  "blue_violet", "orange4", "medium_purple4", "slate_blue3", "royal_blue1", "chartreuse4",
  "dark_sea_green4", "pale_turquoise4", "steel_blue", "steel_blue3", "cornflower_blue",
  "chartreuse3", "cadet_blue", "sky_blue3", "steel_blue1", "pale_green3", "sea_green3",
  "aquamarine3", "medium_turquoise", "chartreuse2", "sea_green2", "sea_green1", "aquamarine1",
  "dark_slate_gray2", "dark_magenta", "dark_violet", "purple", "light_pink4", "plum4",
  "medium_purple3", "slate_blue1", "yellow4", "wheat4", "light_slate_grey", "light_slate_gray",
  "medium_purple", "light_slate_blue", "dark_olive_green3", "dark_sea_green", "light_sky_blue3",
  "sky_blue2", "dark_sea_green3", "dark_slate_gray3", "sky_blue1", "chartreuse1", "light_green",
  "pale_green1", "dark_slate_gray1", "red3", "medium_violet_red", "magenta3", "dark_orange3",
  "indian_red", "hot_pink3", "medium_orchid3", "medium_orchid", "medium_purple2",
  "dark_goldenrod", "light_salmon3", "rosy_brown", "medium_purple1", "gold3", "dark_khaki",
  "navajo_white3", "light_steel_blue3", "light_steel_blue", "yellow3", "dark_sea_green2",
  "light_cyan3", "light_sky_blue1", "green_yellow", "dark_olive_green2", "dark_sea_green1",
  "pale_turquoise1", "deep_pink3", "magenta2", "hot_pink2", "orchid", "medium_orchid1", "orange3",
  "light_pink3", "pink3", "plum3", "violet", "light_goldenrod3", "tan", "misty_rose3", "thistle3",
  "plum2", "khaki3", "light_goldenrod2", "light_yellow3", "light_steel_blue1", "yellow2",
  "dark_olive_green1", "honeydew2", "light_cyan1", "red1", "deep_pink2", "deep_pink1", "magenta1",
  "orange_red1", "indian_red1", "hot_pink", "dark_orange", "salmon1", "light_coral",
  "pale_violet_red1", "orchid2", "orchid1", "orange1", "sandy_brown", "light_salmon1",
  "light_pink1", "pink1", "plum1", "gold1", "navajo_white1", "misty_rose1", "thistle1", "yellow1",
  "light_goldenrod1", "khaki1", "wheat1", "cornsilk1"]

/-- The shades of grey that have names, in hundredths of white. -/
def shades : List String :=
  ["0", "3", "7", "11", "15", "19", "23", "27", "30", "35", "37", "39", "42", "46", "50", "53",
    "54", "58", "62", "63", "66", "69", "70", "74", "78", "82", "84", "85", "89", "93", "100"]

/-- What follows the front of a text. -/
def behind? (front s : List Char) : Option (List Char) :=
  if front.isPrefixOf s then some (s.drop front.length) else none

/-- What stands in parentheses behind a name. -/
def argument? (name s : List Char) : Option (List Char) :=
  match behind? (name ++ ['(']) s with
  | some rest => if rest.getLast? = some ')' then some rest.dropLast else none
  | none => none

/-- A number of up to 255. -/
def isOctet (s : List Char) : Bool :=
  !s.isEmpty && s.all Char.isDigit && Json.digitsValue s ≤ 255

/-- Whether a word in small letters names a colour. -/
def isColour (word : String) : Bool :=
  let s := word.toList
  word = "default" || basicColours.contains word || namedColours.contains word
    || basicColours.any (fun c => ("bright_" ++ c) = word)
    || shades.any (fun n => "grey" ++ n = word || "gray" ++ n = word)
    || (match s with
      | '#' :: ds => ds.length = 6 && ds.all fun c => (Json.hexValue? c).isSome
      | _ => false)
    || (match argument? "color".toList s with
      | some n => n.length ≤ 3 && isOctet n
      | none => false)
    || (match argument? "rgb".toList s with
      | some parts =>
        let parts := Text.splitOn ',' parts
        parts.length = 3 && parts.all isOctet
      | none => false)

/-- What the words of a style have set so far. -/
structure Settings where
  attributes : List (String × Bool)
  colour : Option String
  ground : Option String
  link : Option String

/-- Sets an attribute, whatever was said of it before. -/
def Settings.put (s : Settings) (name : String) (on : Bool) : Settings :=
  { s with attributes := (name, on) :: s.attributes }

/-- A text with its ASCII capitals in lower case. -/
def lower (s : String) : String := String.ofList (Text.asciiLower s.toList)

/-- What the words of a style set, if they are those of a style. -/
def settings? : List String → Settings → Option Settings
  | [], s => some s
  | word :: rest, s =>
    match lower word, rest with
    | "on", c :: rest =>
      if isColour (lower c) then settings? rest { s with ground := some (lower c) } else none
    | "on", [] => none
    | "not", name :: rest =>
      match attribute? name with
      | some a => settings? rest (s.put a false)
      | none => none
    | "not", [] => none
    | "link", url :: rest => settings? rest { s with link := some url }
    | "link", [] => none
    | w, rest =>
      match attribute? w with
      | some a => settings? rest (s.put a true)
      | none => if isColour w then settings? rest { s with colour := some w } else none

/-- The words that name what is set, attributes first. -/
def Settings.words (s : Settings) : List String :=
  attributeNames.flatMap (fun a =>
    match s.attributes.lookup a with
    | some true => [a]
    | some false => ["not", a]
    | none => [])
  ++ s.colour.toList
  ++ (match s.ground with | some c => ["on", c] | none => [])
  ++ (match s.link with | some l => ["link", l] | none => [])

/-- The name of a style that tells it from others. -/
def normalName (name : List Char) : String :=
  let trimmed := Text.trim name
  if trimmed.isEmpty ∨ trimmed = "none".toList then "none"
  else
    match settings? ((Text.words name).map String.ofList) ⟨[], none, none, none⟩ with
    | some s => " ".intercalate s.words
    | none => String.ofList (Text.asciiLower trimmed)

example : normalName "red BOLD".toList = normalName "b red".toList := by decide +kernel

end Style

end LspHost.Display
