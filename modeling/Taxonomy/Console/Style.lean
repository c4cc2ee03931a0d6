import Taxonomy.Conversion
import Taxonomy.Text.Blank
import Taxonomy.Text.Case

/-!
# Styles

A style is a list of words: attributes, each perhaps denied, a colour of the text, a colour of the
ground, and a link. Styles with the same effect have one name.

* `Style.read`: the style that words describe.
* `Style.normalize`: the name of a style.
-/

namespace Taxonomy

/-- **A style**: attributes that are set or denied, colours, and a link. -/
structure Style where
  attributes : List (String × Bool) := []
  colour : Option String := none
  ground : Option String := none
  link : Option String := none
  deriving DecidableEq, Repr

namespace Style

/-- The attributes in the order in which they are named. -/
def attributeNames : List String := [
  "bold", "dim", "italic", "underline", "blink", "blink2", "reverse", "conceal", "strike",
  "underline2", "frame", "encircle", "overline"]

/-- The short names of attributes. -/
def shortNames : List (String × String) := [
  ("b", "bold"), ("d", "dim"), ("i", "italic"), ("u", "underline"), ("r", "reverse"),
  ("c", "conceal"), ("s", "strike"), ("uu", "underline2"), ("o", "overline")]

/-- The attribute that a word names. -/
def attribute? (word : String) : Option String :=
  if attributeNames.contains word then some word else shortNames.lookup word

/-- The names of colours, with blanks between them. -/
def colourRows : List String := [
  "black red green yellow blue magenta cyan white bright_black bright_red bright_green",
  "bright_yellow bright_blue bright_magenta bright_cyan bright_white grey0 gray0 navy_blue",
  "dark_blue blue3 blue1 dark_green deep_sky_blue4 dodger_blue3 dodger_blue2 green4",
  "spring_green4 turquoise4 deep_sky_blue3 dodger_blue1 green3 spring_green3 dark_cyan",
  "light_sea_green deep_sky_blue2 deep_sky_blue1 spring_green2 cyan3 dark_turquoise turquoise2",
  "green1 spring_green1 medium_spring_green cyan2 cyan1 dark_red deep_pink4 purple4 purple3",
  "blue_violet orange4 grey37 gray37 medium_purple4 slate_blue3 royal_blue1 chartreuse4",
  "dark_sea_green4 pale_turquoise4 steel_blue steel_blue3 cornflower_blue chartreuse3",
  "cadet_blue sky_blue3 steel_blue1 pale_green3 sea_green3 aquamarine3 medium_turquoise",
  "chartreuse2 sea_green2 sea_green1 aquamarine1 dark_slate_gray2 dark_magenta dark_violet",
  "purple light_pink4 plum4 medium_purple3 slate_blue1 yellow4 wheat4 grey53 gray53",
  "light_slate_grey light_slate_gray medium_purple light_slate_blue dark_olive_green3",
  "dark_sea_green light_sky_blue3 sky_blue2 dark_sea_green3 dark_slate_gray3 sky_blue1",
  "chartreuse1 light_green pale_green1 dark_slate_gray1 red3 medium_violet_red magenta3",
  "dark_orange3 indian_red hot_pink3 medium_orchid3 medium_orchid medium_purple2 dark_goldenrod",
  "light_salmon3 rosy_brown grey63 gray63 medium_purple1 gold3 dark_khaki navajo_white3 grey69",
  "gray69 light_steel_blue3 light_steel_blue yellow3 dark_sea_green2 light_cyan3",
  "light_sky_blue1 green_yellow dark_olive_green2 dark_sea_green1 pale_turquoise1 deep_pink3",
  "magenta2 hot_pink2 orchid medium_orchid1 orange3 light_pink3 pink3 plum3 violet",
  "light_goldenrod3 tan misty_rose3 thistle3 plum2 khaki3 light_goldenrod2 light_yellow3 grey84",
  "gray84 light_steel_blue1 yellow2 dark_olive_green1 honeydew2 light_cyan1 red1 deep_pink2",
  "deep_pink1 magenta1 orange_red1 indian_red1 hot_pink dark_orange salmon1 light_coral",
  "pale_violet_red1 orchid2 orchid1 orange1 sandy_brown light_salmon1 light_pink1 pink1 plum1",
  "gold1 navajo_white1 misty_rose1 thistle1 yellow1 light_goldenrod1 khaki1 wheat1 cornsilk1",
  "grey100 gray100 grey3 gray3 grey7 gray7 grey11 gray11 grey15 gray15 grey19 gray19 grey23",
  "gray23 grey27 gray27 grey30 gray30 grey35 gray35 grey39 gray39 grey42 gray42 grey46 gray46",
  "grey50 gray50 grey54 gray54 grey58 gray58 grey62 gray62 grey66 gray66 grey70 gray70 grey74",
  "gray74 grey78 gray78 grey82 gray82 grey85 gray85 grey89 gray89 grey93 gray93"]

/-- Does a word name a colour? -/
def isColourName (word : String) : Bool := colourRows.any fun row => (row.splitOn " ").contains word

/-- The characters between an opening and a closing text. -/
def between? (opening closing : String) (s : String) : Option (List Char) :=
  if s.startsWith opening && s.endsWith closing && opening.length + closing.length < s.length then
    some ((s.toList.drop opening.length).take (s.length - opening.length - closing.length))
  else none

/-- The brightest part of a colour. -/
def maxPart : Nat := 255

/-- Is this a colour by its six hexadecimal digits? -/
def isHexColour (s : String) : Bool :=
  match s.toList with
  | '#' :: ds => ds.length == 6 && ds.all fun c => c.isDigit || ('a' ≤ c && c ≤ 'f')
  | _ => false

/-- Is this a colour by its number? -/
def isNumberedColour (s : String) : Bool :=
  (between? "color(" ")" s).any fun ds =>
    ds.length ≤ 3 && ds.all Char.isDigit && ofDigits (digitValues ds) ≤ maxPart

/-- Is this a colour by its three parts? Parts that are no numbers are a fault. -/
def isMixedColour (s : String) : Result Bool := do
  let some cs := between? "rgb(" ")" s | return false
  if !cs.all fun c => c == ',' || Text.isDecimal c then return false
  match cs.splitOn ',' with
  | [r, g, b] =>
    let parts ← [r, g, b].mapM fun ds => integerOfText (String.ofList ds)
    return parts.all (· ≤ (maxPart : Int))
  | _ => return false

/-- The colour that a word names, in small letters. -/
def colour? (word : String) : Result (Option String) := do
  let name := Text.lower word
  if name == "default" || isColourName name || isHexColour name ||
      isNumberedColour name || (← isMixedColour name) then return some name
  else return none

/-- Sets or denies an attribute. -/
def set (s : Style) (name : String) (on : Bool) : Style :=
  { s with attributes := (name, on) :: s.attributes.filter (·.1 != name) }

/-- **The style that words describe**, or none if they are no style. -/
def read (style : Style) : List String → Result (Option Style)
  | [] => return some style
  | word :: words => do
    let name := Text.lower word
    match name, words with
    | "on", [] | "not", [] | "link", [] => return none
    | "on", ground :: words =>
      match ← colour? ground with
      | some g => read { style with ground := some g } words
      | none => return none
    | "not", denied :: words =>
      match attribute? denied with
      | some a => read (style.set a false) words
      | none => return none
    | "link", target :: words => read { style with link := some target } words
    | _, words =>
      match attribute? name with
      | some a => read (style.set a true) words
      | none => match ← colour? name with
        | some c => read { style with colour := some c } words
        | none => return none

/-- The words of a style in their order. -/
def words (s : Style) : List String :=
  (attributeNames.filterMap fun a =>
    (s.attributes.lookup a).map fun on => if on then a else "not " ++ a) ++
    s.colour.toList ++ (s.ground.map ("on " ++ ·)).toList ++ (s.link.map ("link " ++ ·)).toList

/-- The name of a style that changes nothing. -/
def noneName : String := "none"

/-- **The name of a style.** What is no style is its own name, in small letters. -/
def normalize (s : String) : Result String := do
  let trimmed := Text.trim s
  if trimmed == noneName || trimmed.isEmpty then return noneName
  match ← read {} (Text.blankWords s) with
  | some style => return if style.words.isEmpty then noneName else " ".intercalate style.words
  | none => return Text.lower trimmed

end Style

end Taxonomy
