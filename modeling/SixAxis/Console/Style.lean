import SixAxis.Decimal.Read
import SixAxis.Fault
import SixAxis.Text.Case

/-!
# Styles of text

A style is described by words: attributes such as `bold`, each by a long or a short name and taken
back by `not`, a colour, the colour of the ground behind `on`, and an address behind `link`.  Two
descriptions of one style have the same normal form; what describes no style is its own.

* `Style.normal` — the normal form of a description.
-/

namespace SixAxis.Console

/-! ### Colours -/

/-- The names of colours. -/
def colorNames : List String := [
  "black", "red", "green", "yellow", "blue", "magenta", "cyan", "white", "bright_black",
  "bright_red", "bright_green", "bright_yellow", "bright_blue", "bright_magenta", "bright_cyan",
  "bright_white", "grey0", "gray0", "navy_blue", "dark_blue", "blue3", "blue1", "dark_green",
  "deep_sky_blue4", "dodger_blue3", "dodger_blue2", "green4", "spring_green4", "turquoise4",
  "deep_sky_blue3", "dodger_blue1", "green3", "spring_green3", "dark_cyan", "light_sea_green",
  "deep_sky_blue2", "deep_sky_blue1", "spring_green2", "cyan3", "dark_turquoise", "turquoise2",
  "green1", "spring_green1", "medium_spring_green", "cyan2", "cyan1", "dark_red", "deep_pink4",
  "purple4", "purple3", "blue_violet", "orange4", "grey37", "gray37", "medium_purple4",
  "slate_blue3", "royal_blue1", "chartreuse4", "dark_sea_green4", "pale_turquoise4", "steel_blue",
  "steel_blue3", "cornflower_blue", "chartreuse3", "cadet_blue", "sky_blue3", "steel_blue1",
  "pale_green3", "sea_green3", "aquamarine3", "medium_turquoise", "chartreuse2", "sea_green2",
  "sea_green1", "aquamarine1", "dark_slate_gray2", "dark_magenta", "dark_violet", "purple",
  "light_pink4", "plum4", "medium_purple3", "slate_blue1", "yellow4", "wheat4", "grey53",
  "gray53", "light_slate_grey", "light_slate_gray", "medium_purple", "light_slate_blue",
  "dark_olive_green3", "dark_sea_green", "light_sky_blue3", "sky_blue2", "dark_sea_green3",
  "dark_slate_gray3", "sky_blue1", "chartreuse1", "light_green", "pale_green1",
  "dark_slate_gray1", "red3", "medium_violet_red", "magenta3", "dark_orange3", "indian_red",
  "hot_pink3", "medium_orchid3", "medium_orchid", "medium_purple2", "dark_goldenrod",
  "light_salmon3", "rosy_brown", "grey63", "gray63", "medium_purple1", "gold3", "dark_khaki",
  "navajo_white3", "grey69", "gray69", "light_steel_blue3", "light_steel_blue", "yellow3",
  "dark_sea_green2", "light_cyan3", "light_sky_blue1", "green_yellow", "dark_olive_green2",
  "dark_sea_green1", "pale_turquoise1", "deep_pink3", "magenta2", "hot_pink2", "orchid",
  "medium_orchid1", "orange3", "light_pink3", "pink3", "plum3", "violet", "light_goldenrod3",
  "tan", "misty_rose3", "thistle3", "plum2", "khaki3", "light_goldenrod2", "light_yellow3",
  "grey84", "gray84", "light_steel_blue1", "yellow2", "dark_olive_green1", "honeydew2",
  "light_cyan1", "red1", "deep_pink2", "deep_pink1", "magenta1", "orange_red1", "indian_red1",
  "hot_pink", "dark_orange", "salmon1", "light_coral", "pale_violet_red1", "orchid2", "orchid1",
  "orange1", "sandy_brown", "light_salmon1", "light_pink1", "pink1", "plum1", "gold1",
  "navajo_white1", "misty_rose1", "thistle1", "yellow1", "light_goldenrod1", "khaki1", "wheat1",
  "cornsilk1", "grey100", "gray100", "grey3", "gray3", "grey7", "gray7", "grey11", "gray11",
  "grey15", "gray15", "grey19", "gray19", "grey23", "gray23", "grey27", "gray27", "grey30",
  "gray30", "grey35", "gray35", "grey39", "gray39", "grey42", "gray42", "grey46", "gray46",
  "grey50", "gray50", "grey54", "gray54", "grey58", "gray58", "grey62", "gray62", "grey66",
  "gray66", "grey70", "gray70", "grey74", "gray74", "grey78", "gray78", "grey82", "gray82",
  "grey85", "gray85", "grey89", "gray89", "grey93", "gray93"]

/-- The most that a part of a colour can have. -/
def mostColor : Int := 255

/-- Whether three numbers between commas are the parts of a colour.  That one of them is no number
is a misuse. -/
def arePartsOfColor (parts : List String) : Checked Bool :=
  if parts.length = 3 then
    match parts.mapM fun part => (Decimal.whole part).mapError (Misuse.notWhole part) with
    | .ok values => .ok (values.all (· ≤ mostColor))
    | .error m => .error m
  else .ok false

/-- The text between the start and the end of another one. -/
def between? (start last s : String) : Option (List Char) :=
  let cs := s.toList
  let from' := start.toList
  if from'.isPrefixOf cs && last.toList.isSuffixOf (cs.drop from'.length)
  then some ((cs.drop from'.length).dropLast)
  else none

/-- Whether a character is one of the hexadecimal digits in small letters. -/
def isHexDigit (c : Char) : Bool := "0123456789abcdef".toList.contains c

/-- Whether a word in small letters names a colour: by its name, by six digits, by its number or by
its parts. -/
def isColor (word : String) : Checked Bool :=
  if word = "default" || colorNames.contains word then .ok true
  else match word.toList, between? "color(" ")" word, between? "rgb(" ")" word with
    | '#' :: digits, _, _ => .ok (digits.length = 6 && digits.all isHexDigit)
    | _, some digits, _ =>
      .ok (0 < digits.length && digits.length ≤ 3 && digits.all Char.isDigit
        && ((String.ofList digits).toNat?.any fun n => (n : Int) ≤ mostColor))
    | _, _, some parts =>
      if !parts.isEmpty && parts.all fun c => c = ',' || (Text.decimalValue? c).isSome
      then arePartsOfColor ((String.ofList parts).splitOn ",") else .ok false
    | _, _, _ => .ok false

/-! ### Descriptions -/

/-- The names of the attributes, each with its short name, in the order of a normal form. -/
def attributeNames : List (String × Option String) := [
  ("bold", some "b"), ("dim", some "d"), ("italic", some "i"), ("underline", some "u"),
  ("blink", none), ("blink2", none), ("reverse", some "r"), ("conceal", some "c"),
  ("strike", some "s"), ("underline2", some "uu"), ("frame", none), ("encircle", none),
  ("overline", some "o")]

/-- The long name of an attribute. -/
def attribute? (word : String) : Option String :=
  (attributeNames.find? fun a => a.1 = word || a.2 = some word).map (·.1)

/-- A style. -/
structure Style where
  /-- The attributes that are set or taken back, the last word on each first. -/
  attributes : List (String × Bool) := []
  color : Option String := none
  ground : Option String := none
  link : Option String := none

namespace Style

/-- The style of some words on top of another one, if they describe any. -/
def ofWords (s : Style) : List String → Checked (Option Style)
  | [] => .ok (some s)
  | [word] => do
    match attribute? (Text.lower word) with
    | some a => return some { s with attributes := (a, true) :: s.attributes }
    | none =>
      if ← isColor (Text.lower word) then return some { s with color := Text.lower word }
      else return none
  | word :: next :: rest => do
    match Text.lower word, attribute? (Text.lower word) with
    | "on", _ =>
      if ← isColor (Text.lower next)
      then ofWords { s with ground := some (Text.lower next) } rest
      else return none
    | "not", _ =>
      match attribute? next with
      | some a => ofWords { s with attributes := (a, false) :: s.attributes } rest
      | none => return none
    | "link", _ => ofWords { s with link := some next } rest
    | _, some a => ofWords { s with attributes := (a, true) :: s.attributes } (next :: rest)
    | word, none =>
      if ← isColor word then ofWords { s with color := some word } (next :: rest)
      else return none

/-- The words of a style in their order. -/
def words (s : Style) : List String :=
  attributeNames.filterMap (fun (name, _) => (s.attributes.lookup name).map fun set =>
      if set then name else "not " ++ name)
    ++ s.color.toList
    ++ (s.ground.map fun color => ["on", color]).getD []
    ++ (s.link.map fun address => ["link", address]).getD []

/-- The text of a style. -/
def text (s : Style) : String := if s.words.isEmpty then "none" else " ".intercalate s.words

/-- The normal form of a description. -/
def normal (description : String) : Checked String := do
  if description.isEmpty || Text.trim description = "none" then return "none"
  match ← ofWords {} (Text.words description) with
  | some s => return s.text
  | none => return Text.lower (Text.trim description)

end Style

end SixAxis.Console
