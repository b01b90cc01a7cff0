import DesignKit.Fault
import DesignKit.Text.Blank
import DesignKit.Text.DecimalDigit
import DesignKit.Text.Lower

/-! # Names of styles

The name of a style is a row of words: features that the style turns on or, behind the word `not`, off, a colour,
another colour behind the word `on`, and an address behind the word `link`. A style has many names; the one that
says its features in a fixed order, each by its full name, stands for all of them. Any other text names itself. -/

namespace DesignKit.Console

/-- The features of a style in the order in which a name says them, each with a short name. -/
def features : List (String × String) :=
  [("bold", "b"), ("dim", "d"), ("italic", "i"), ("underline", "u"), ("blink", "blink"), ("blink2", "blink2"),
    ("reverse", "r"), ("conceal", "c"), ("strike", "s"), ("underline2", "uu"), ("frame", "frame"),
    ("encircle", "encircle"), ("overline", "o")]

/-- The full name of a feature. -/
def feature? (word : String) : Option String :=
  (features.find? fun (name, short) => word == name || word == short).map (·.1)

/-- The colours that have a name. -/
def colorNames : String := "
  aquamarine1 aquamarine3 black blue blue1 blue3 blue_violet bright_black bright_blue bright_cyan bright_green
  bright_magenta bright_red bright_white bright_yellow cadet_blue chartreuse1 chartreuse2 chartreuse3
  chartreuse4 cornflower_blue cornsilk1 cyan cyan1 cyan2 cyan3 dark_blue dark_cyan dark_goldenrod dark_green
  dark_khaki dark_magenta dark_olive_green1 dark_olive_green2 dark_olive_green3 dark_orange dark_orange3
  dark_red dark_sea_green dark_sea_green1 dark_sea_green2 dark_sea_green3 dark_sea_green4 dark_slate_gray1
  dark_slate_gray2 dark_slate_gray3 dark_turquoise dark_violet deep_pink1 deep_pink2 deep_pink3 deep_pink4
  deep_sky_blue1 deep_sky_blue2 deep_sky_blue3 deep_sky_blue4 dodger_blue1 dodger_blue2 dodger_blue3 gold1 gold3
  gray0 gray100 gray11 gray15 gray19 gray23 gray27 gray3 gray30 gray35 gray37 gray39 gray42 gray46 gray50 gray53
  gray54 gray58 gray62 gray63 gray66 gray69 gray7 gray70 gray74 gray78 gray82 gray84 gray85 gray89 gray93 green
  green1 green3 green4 green_yellow grey0 grey100 grey11 grey15 grey19 grey23 grey27 grey3 grey30 grey35 grey37
  grey39 grey42 grey46 grey50 grey53 grey54 grey58 grey62 grey63 grey66 grey69 grey7 grey70 grey74 grey78 grey82
  grey84 grey85 grey89 grey93 honeydew2 hot_pink hot_pink2 hot_pink3 indian_red indian_red1 khaki1 khaki3
  light_coral light_cyan1 light_cyan3 light_goldenrod1 light_goldenrod2 light_goldenrod3 light_green light_pink1
  light_pink3 light_pink4 light_salmon1 light_salmon3 light_sea_green light_sky_blue1 light_sky_blue3
  light_slate_blue light_slate_gray light_slate_grey light_steel_blue light_steel_blue1 light_steel_blue3
  light_yellow3 magenta magenta1 magenta2 magenta3 medium_orchid medium_orchid1 medium_orchid3 medium_purple
  medium_purple1 medium_purple2 medium_purple3 medium_purple4 medium_spring_green medium_turquoise
  medium_violet_red misty_rose1 misty_rose3 navajo_white1 navajo_white3 navy_blue orange1 orange3 orange4
  orange_red1 orchid orchid1 orchid2 pale_green1 pale_green3 pale_turquoise1 pale_turquoise4 pale_violet_red1
  pink1 pink3 plum1 plum2 plum3 plum4 purple purple3 purple4 red red1 red3 rosy_brown royal_blue1 salmon1
  sandy_brown sea_green1 sea_green2 sea_green3 sky_blue1 sky_blue2 sky_blue3 slate_blue1 slate_blue3
  spring_green1 spring_green2 spring_green3 spring_green4 steel_blue steel_blue1 steel_blue3 tan thistle1
  thistle3 turquoise2 turquoise4 violet wheat1 wheat4 white yellow yellow1 yellow2 yellow3 yellow4"

/-- The parts of a colour in decimal digits: none of them is above 255. There are three, and each has a digit. -/
def rgbParts (parts : List (List Nat)) : Except Fault Bool :=
  if parts.length != 3 then .ok false
  else if parts.any (·.isEmpty) then .error .noColorPart
  else .ok (parts.all fun digits => digits.foldl (fun n d => 10 * n + d) 0 ≤ 255)

/-- The digits of the parts between commas. -/
def digitParts? (cs : List Char) : Option (List (List Nat)) :=
  (cs.splitOn ',').mapM (·.mapM Text.digitValue?)

/-- What stands between brackets behind a name. -/
def inBrackets? (name : String) (word : List Char) : Option (List Char) :=
  let opening := name.toList ++ ['(']
  if opening.isPrefixOf word && word.getLast? == some ')' then some ((word.drop opening.length).dropLast) else none

/-- A hexadecimal digit in small letters. -/
def isHexDigit (c : Char) : Bool :=
  c.isDigit || ('a' ≤ c && c ≤ 'f')

/-- A word in small letters is a colour: a name, six hexadecimal digits, a number up to 255 or three of them. -/
def isColor (word : List Char) : Except Fault Bool :=
  match inBrackets? "rgb" word >>= digitParts? with
  | some parts => rgbParts parts
  | none =>
    let numbered := (inBrackets? "color" word).any fun digits =>
      0 < digits.length && digits.length ≤ 3 && digits.all Char.isDigit &&
        digits.foldl (fun n c => 10 * n + (c.toNat - '0'.toNat)) 0 ≤ 255
    let hexadecimal := word.head? == some '#' && word.length == 7 && word.tail.all isHexDigit
    .ok (numbered || hexadecimal || word == "default".toList || (Text.words colorNames.toList).contains word)

/-- A style, as its name gives it. -/
structure Style where
  /-- The features that are turned on or off. -/
  features : List (String × Bool)
  color : Option String
  background : Option String
  link : Option String

namespace Style

/-- A style that leaves everything as it is. -/
def plain : Style := ⟨[], none, none, none⟩

/-- A style with a feature turned on or off. -/
def turn (s : Style) (feature : String) (on : Bool) : Style :=
  { s with features := (feature, on) :: s.features }

/-- A style with what a word says: a feature or a colour. -/
def say? (s : Style) (word : String) : Except Fault (Option Style) := do
  match feature? word with
  | some feature => return some (s.turn feature true)
  | none => return if ← isColor word.toList then some { s with color := some word } else none

/-- A style with what a word says behind another one that leads to it. -/
def sayBehind? (s : Style) (lead word : String) : Except Fault (Option Style) := do
  if lead == "not" then return (feature? word).map fun feature => s.turn feature false
  else if lead == "link" then return some { s with link := some word }
  else
    let color := Text.lowerAll word
    return if ← isColor color.toList then some { s with background := some color } else none

/-- A word that leads to the next one. -/
def isLead (word : String) : Bool :=
  word == "on" || word == "not" || word == "link"

/-- A style with what words say, if all of them say something. -/
def sayAll? (s : Style) : List String → Except Fault (Option Style)
  | [] => return some s
  | [word] => s.say? (Text.lowerAll word)
  | word :: next :: rest => do
    if isLead (Text.lowerAll word) then
      match ← s.sayBehind? (Text.lowerAll word) next with
      | some s => sayAll? s rest
      | none => return none
    else
      match ← s.say? (Text.lowerAll word) with
      | some s => sayAll? s (next :: rest)
      | none => return none

/-- The name that stands for all names of a style. -/
def name (s : Style) : String :=
  let turned := Console.features.filterMap fun (feature, _) =>
    (s.features.lookup feature).map fun on => if on then feature else "not " ++ feature
  " ".intercalate (turned ++ s.color.toList ++ s.background.toList.map ("on " ++ ·) ++ s.link.toList.map ("link " ++ ·))

end Style

/-- The name that stands for all names of the style that a text names. -/
def styleName (text : List Char) : Except Fault String := do
  match ← Style.plain.sayAll? ((Text.words text).map String.ofList) with
  | some style => return style.name
  | none => return Text.lowerAll (Text.strip (String.ofList text))

end DesignKit.Console
