import BlockMarkup.Text.Blank
import BlockMarkup.Text.Lower
import BlockMarkup.Yaml.Number

/-!
# Styles

How a piece of a message looks: its attributes, its colours, and where it links to. A style is written
in words, in any order, and has one normal form, so that styles can be compared. On a terminal without
colours the styles of a message change nothing but where they may end.
-/

namespace BlockMarkup.Console

open Text

/-! ## Attributes -/

/-- The attributes in the order of the normal form, each with its short names. -/
def attributes : List (Text × List Text) :=
  [("bold", ["b"]), ("dim", ["d"]), ("italic", ["i"]), ("underline", ["u"]), ("blink", []),
    ("blink2", []), ("reverse", ["r"]), ("conceal", ["c"]), ("strike", ["s"]), ("underline2", ["uu"]),
    ("frame", []), ("encircle", []), ("overline", ["o"])].map
    fun (a : String × List String) => (a.1.toList, a.2.map String.toList)

/-- The attribute that a word names. -/
def attribute? (word : Text) : Option Text :=
  (attributes.find? fun a => a.1 = word || a.2.contains word).map Prod.fst

/-! ## Colours -/

/-- Colours that have a name. -/
def colorNames : List Text := words "
  default black red green yellow blue magenta cyan white bright_black bright_red bright_green
  bright_yellow bright_blue bright_magenta bright_cyan bright_white grey0 gray0 navy_blue dark_blue
  blue3 blue1 dark_green deep_sky_blue4 dodger_blue3 dodger_blue2 green4 spring_green4 turquoise4
  deep_sky_blue3 dodger_blue1 green3 spring_green3 dark_cyan light_sea_green deep_sky_blue2
  deep_sky_blue1 spring_green2 cyan3 dark_turquoise turquoise2 green1 spring_green1
  medium_spring_green cyan2 cyan1 dark_red deep_pink4 purple4 purple3 blue_violet orange4 grey37
  gray37 medium_purple4 slate_blue3 royal_blue1 chartreuse4 dark_sea_green4 pale_turquoise4
  steel_blue steel_blue3 cornflower_blue chartreuse3 cadet_blue sky_blue3 steel_blue1 pale_green3
  sea_green3 aquamarine3 medium_turquoise chartreuse2 sea_green2 sea_green1 aquamarine1
  dark_slate_gray2 dark_magenta dark_violet purple light_pink4 plum4 medium_purple3 slate_blue1
  yellow4 wheat4 grey53 gray53 light_slate_grey light_slate_gray medium_purple light_slate_blue
  dark_olive_green3 dark_sea_green light_sky_blue3 sky_blue2 dark_sea_green3 dark_slate_gray3
  sky_blue1 chartreuse1 light_green pale_green1 dark_slate_gray1 red3 medium_violet_red magenta3
  dark_orange3 indian_red hot_pink3 medium_orchid3 medium_orchid medium_purple2 dark_goldenrod
  light_salmon3 rosy_brown grey63 gray63 medium_purple1 gold3 dark_khaki navajo_white3 grey69
  gray69 light_steel_blue3 light_steel_blue yellow3 dark_sea_green2 light_cyan3 light_sky_blue1
  green_yellow dark_olive_green2 dark_sea_green1 pale_turquoise1 deep_pink3 magenta2 hot_pink2
  orchid medium_orchid1 orange3 light_pink3 pink3 plum3 violet light_goldenrod3 tan misty_rose3
  thistle3 plum2 khaki3 light_goldenrod2 light_yellow3 grey84 gray84 light_steel_blue1 yellow2
  dark_olive_green1 honeydew2 light_cyan1 red1 deep_pink2 deep_pink1 magenta1 orange_red1
  indian_red1 hot_pink dark_orange salmon1 light_coral pale_violet_red1 orchid2 orchid1 orange1
  sandy_brown light_salmon1 light_pink1 pink1 plum1 gold1 navajo_white1 misty_rose1 thistle1
  yellow1 light_goldenrod1 khaki1 wheat1 cornsilk1 grey100 gray100 grey3 gray3 grey7 gray7 grey11
  gray11 grey15 gray15 grey19 gray19 grey23 gray23 grey27 gray27 grey30 gray30 grey35 gray35
  grey39 gray39 grey42 gray42 grey46 gray46 grey50 gray50 grey54 gray54 grey58 gray58 grey62
  gray62 grey66 gray66 grey70 gray70 grey74 gray74 grey78 gray78 grey82 gray82 grey85 gray85
  grey89 gray89 grey93 gray93"

/-- Why words make no style: one of them is unknown, or the parts of a colour leave one out. -/
inductive StyleError
  | unknown (word : Text)
  | emptyPart (color : Text)
deriving DecidableEq

/-- The text between a name with an opening parenthesis and the closing one. -/
def argument? (name : String) (t : Text) : Option Text := do
  let rest ← after? (name.toList ++ ['(']) t
  if rest.getLast? = some ')' then some rest.dropLast else none

def isByte (t : Text) : Bool := !t.isEmpty && t.all Char.isDigit && natOfDigits t ≤ 255

/-- A colour given by the share of red, green and blue in it. -/
def checkShares (color shares : Text) : Except StyleError Unit :=
  match splitWhen (· == ',') shares with
  | [r, g, b] =>
    if !(shares.all fun c => c.isDigit || c == ',') then .error (.unknown color)
    else if [r, g, b].contains [] then .error (.emptyPart color)
    else if [r, g, b].all isByte then .ok ()
    else .error (.unknown color)
  | _ => .error (.unknown color)

/-- A colour is a name, six hexadecimal digits behind a sharp, a number, or three shares. -/
def checkColor (color : Text) : Except StyleError Unit :=
  let hex : Bool := match color with
    | '#' :: ds => ds.length = 6 && ds.all fun c => (Yaml.hexDigit? c).isSome
    | _ => false
  let number : Bool := (argument? "color" color).any fun n => n.length ≤ 3 && isByte n
  if colorNames.contains color || hex || number then .ok ()
  else
    match argument? "rgb" color with
    | some shares => checkShares color shares
    | none => .error (.unknown color)

/-! ## Styles -/

structure Style where
  attributes : List (Text × Bool)
  color : Option Text
  background : Option Text
  link : Option Text
deriving DecidableEq

namespace Style

def plain : Style := ⟨[], none, none, none⟩

def setAttribute (s : Style) (name : Text) (on : Bool) : Style :=
  { s with attributes := (name, on) :: s.attributes }

/-- A word that stands for itself. -/
def addWord (s : Style) (word : Text) : Except StyleError Style :=
  match attribute? (lower word) with
  | some a => .ok (s.setAttribute a true)
  | none => do
    checkColor (lower word)
    return { s with color := lower word }

/-- The style that words describe. -/
def addWords (s : Style) : List Text → Except StyleError Style
  | [] => .ok s
  | [w] =>
    if ["on".toList, "not".toList, "link".toList].contains (lower w) then .error (.unknown w)
    else s.addWord w
  | w :: v :: rest =>
    if lower w = "on" then do
      checkColor (lower v)
      { s with background := some (lower v) }.addWords rest
    else if lower w = "not" then
      match attribute? v with
      | some a => (s.setAttribute a false).addWords rest
      | none => .error (.unknown v)
    else if lower w = "link" then { s with link := some v }.addWords rest
    else do
      let s ← s.addWord w
      s.addWords (v :: rest)

def attributeWords (s : Style) : List Text :=
  Console.attributes.flatMap fun (name, _) =>
    match s.attributes.lookup name with
    | some true => [name]
    | some false => ["not".toList, name]
    | none => []

/-- The normal form. -/
def toText (s : Style) : Text :=
  let behind (word : String) (t : Option Text) : List Text := (t.map fun t => [word.toList, t]).getD []
  match s.attributeWords ++ s.color.toList ++ behind "on" s.background ++ behind "link" s.link with
  | [] => "none"
  | ws => join " " ws

/-- The normal form of a style in words; words that make no style are compared as they are. -/
def normalize (t : Text) : Except StyleError Text :=
  if trim t = "none" then .ok "none"
  else
    match plain.addWords (words t) with
    | .ok s => .ok s.toText
    | .error (.unknown _) => .ok (lower (trim t))
    | .error e => .error e

end Style

end BlockMarkup.Console
