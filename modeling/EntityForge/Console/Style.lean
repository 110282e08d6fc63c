import EntityForge.Text.Blank
import EntityForge.Text.Lower
import EntityForge.Text.Numeral

/-! # Styles of console messages

A style is spelled in words: attributes, each of which may be switched off by `not`, a color, a
color after `on` for the background, and an address after `link`. Of two words for the same thing
the later one counts. Every style has one normal spelling, with the attributes in a fixed order.
-/

namespace EntityForge

/-- What can be switched on and off. -/
inductive StyleAttribute
  | bold
  | dim
  | italic
  | underline
  | blink
  | blink2
  | reverse
  | conceal
  | strike
  | underline2
  | frame
  | encircle
  | overline
  deriving DecidableEq, Repr

/-- A style: the attributes that were switched, the latest first, and what else was given. -/
structure Style where
  switches : List (StyleAttribute × Bool) := []
  color : Option Text := none
  background : Option Text := none
  link : Option Text := none
  deriving DecidableEq, Repr

/-- Why a text spells no style: one of its words is out of place, or a color with three components
lacks one. -/
inductive StyleFault
  | misspelled
  | emptyComponent
  deriving DecidableEq, Repr

namespace StyleAttribute

/-- The names of the attributes, in the order of the normal spelling. -/
def names : List (StyleAttribute × String) := [
  (.bold, "bold"), (.dim, "dim"), (.italic, "italic"), (.underline, "underline"),
  (.blink, "blink"), (.blink2, "blink2"), (.reverse, "reverse"), (.conceal, "conceal"),
  (.strike, "strike"), (.underline2, "underline2"), (.frame, "frame"), (.encircle, "encircle"),
  (.overline, "overline")]

/-- Short names of attributes. -/
def shortNames : List (StyleAttribute × String) := [
  (.bold, "b"), (.dim, "d"), (.italic, "i"), (.underline, "u"), (.reverse, "r"), (.conceal, "c"),
  (.strike, "s"), (.underline2, "uu"), (.overline, "o")]

/-- The attribute of that name. -/
def ofName? (name : Text) : Option StyleAttribute :=
  ((names ++ shortNames).find? fun entry => text entry.2 = name).map Prod.fst

end StyleAttribute

namespace Color

/-- The names of colors, several to a line. -/
def colorNames : List String := [
  "black red green yellow blue magenta cyan white bright_black bright_red bright_green",
  "bright_yellow bright_blue bright_magenta bright_cyan bright_white grey0 gray0 navy_blue",
  "dark_blue blue3 blue1 dark_green deep_sky_blue4 dodger_blue3 dodger_blue2 green4",
  "spring_green4 turquoise4 deep_sky_blue3 dodger_blue1 green3 spring_green3 dark_cyan",
  "light_sea_green deep_sky_blue2 deep_sky_blue1 spring_green2 cyan3 dark_turquoise turquoise2",
  "green1 spring_green1 medium_spring_green cyan2 cyan1 dark_red deep_pink4 purple4 purple3",
  "blue_violet orange4 grey37 gray37 medium_purple4 slate_blue3 royal_blue1 chartreuse4",
  "dark_sea_green4 pale_turquoise4 steel_blue steel_blue3 cornflower_blue chartreuse3",
  "cadet_blue sky_blue3 steel_blue1 pale_green3 sea_green3 aquamarine3 medium_turquoise",
  "chartreuse2 sea_green2 sea_green1 aquamarine1 dark_slate_gray2 dark_magenta dark_violet",
  "purple light_pink4 plum4 medium_purple3 slate_blue1 yellow4 wheat4 grey53 gray53",
  "light_slate_grey light_slate_gray medium_purple light_slate_blue dark_olive_green3",
  "dark_sea_green light_sky_blue3 sky_blue2 dark_sea_green3 dark_slate_gray3 sky_blue1",
  "chartreuse1 light_green pale_green1 dark_slate_gray1 red3 medium_violet_red magenta3",
  "dark_orange3 indian_red hot_pink3 medium_orchid3 medium_orchid medium_purple2 dark_goldenrod",
  "light_salmon3 rosy_brown grey63 gray63 medium_purple1 gold3 dark_khaki navajo_white3 grey69",
  "gray69 light_steel_blue3 light_steel_blue yellow3 dark_sea_green2 light_cyan3",
  "light_sky_blue1 green_yellow dark_olive_green2 dark_sea_green1 pale_turquoise1 deep_pink3",
  "magenta2 hot_pink2 orchid medium_orchid1 orange3 light_pink3 pink3 plum3 violet",
  "light_goldenrod3 tan misty_rose3 thistle3 plum2 khaki3 light_goldenrod2 light_yellow3 grey84",
  "gray84 light_steel_blue1 yellow2 dark_olive_green1 honeydew2 light_cyan1 red1 deep_pink2",
  "deep_pink1 magenta1 orange_red1 indian_red1 hot_pink dark_orange salmon1 light_coral",
  "pale_violet_red1 orchid2 orchid1 orange1 sandy_brown light_salmon1 light_pink1 pink1 plum1",
  "gold1 navajo_white1 misty_rose1 thistle1 yellow1 light_goldenrod1 khaki1 wheat1 cornsilk1",
  "grey100 gray100 grey3 gray3 grey7 gray7 grey11 gray11 grey15 gray15 grey19 gray19 grey23",
  "gray23 grey27 gray27 grey30 gray30 grey35 gray35 grey39 gray39 grey42 gray42 grey46 gray46",
  "grey50 gray50 grey54 gray54 grey58 gray58 grey62 gray62 grey66 gray66 grey70 gray70 grey74",
  "gray74 grey78 gray78 grey82 gray82 grey85 gray85 grey89 gray89 grey93 gray93"]

/-- Is it the name of a color? -/
def isNamed (t : Text) : Bool :=
  !t.contains (.char ' ') && colorNames.any fun line => ((text line).splitOn ' ').contains t

/-- The digits of a decimal number that goes in a component of a color. -/
def componentValue (t : Text) : Nat :=
  t.foldl (fun n p => 10 * n + p.decimalValue) 0

/-- The text between parentheses after `front`, which are all there is. -/
def enclosed? (front : String) (t : Text) : Option Text :=
  if t.startsWith (text front ++ [.char '(']) && t.getLast? = some (.char ')') then
    some (t.drop (front.length + 1)).dropLast
  else none

/-- Is it a number of a color: up to three digits between parentheses, at most 255? -/
def isNumbered (t : Text) : Bool :=
  (enclosed? "color" t).any fun digits =>
    !digits.isEmpty && digits.length ≤ 3 && digits.all CodePoint.isDigit && digits.digitsValue ≤ 255

/-- Is it a color of six hexadecimal digits after a number sign? -/
def isHexadecimal : Text → Bool
  | .char '#' :: digits => digits.length = 6 && digits.all fun p => p.hexValue?.isSome
  | _ => false

/-- Judges a color of three components between parentheses, each at most 255. -/
def judgeComponents (t : Text) : Except StyleFault Unit :=
  match enclosed? "rgb" t with
  | none => .error .misspelled
  | some [] => .error .misspelled
  | some inside =>
      if !inside.all fun p => p.isDecimal || p.isChar ',' then .error .misspelled
      else
        let components := inside.splitOn ','
        if components.length ≠ 3 then .error .misspelled
        else if components.any List.isEmpty then .error .emptyComponent
        else if components.all fun c => componentValue c ≤ 255 then .ok ()
        else .error .misspelled

/-- The normal spelling of a color. -/
def normal (t : Text) : Except StyleFault Text :=
  let color := t.lower
  if color = text "default" || isNamed color || isHexadecimal color || isNumbered color then
    .ok color
  else (judgeComponents color).map fun _ => color

end Color

namespace Style

/-- The words of a text. -/
def wordsOf (t : Text) : List Text :=
  (Text.splitOn ' ' (t.map fun p => if p.isBlank then .char ' ' else p)).filter (!·.isEmpty)

/-- The style that words add to another. -/
def readWords (s : Style) : List Text → Except StyleFault Style
  | [] => .ok s
  | word :: rest =>
      let name := word.lower
      if name = text "on" then
        match rest with
        | [] => .error .misspelled
        | color :: rest => do
            let color ← Color.normal color
            readWords { s with background := some color } rest
      else if name = text "not" then
        match rest with
        | [] => .error .misspelled
        | switch :: rest =>
            match StyleAttribute.ofName? switch with
            | none => .error .misspelled
            | some switch => readWords { s with switches := (switch, false) :: s.switches } rest
      else if name = text "link" then
        match rest with
        | [] => .error .misspelled
        | address :: rest => readWords { s with link := some address } rest
      else
        match StyleAttribute.ofName? name with
        | some switch => readWords { s with switches := (switch, true) :: s.switches } rest
        | none => do
            let color ← Color.normal name
            readWords { s with color := some color } rest

/-- The style that a text spells; `none` spells the style that changes nothing. -/
def ofText (t : Text) : Except StyleFault Style :=
  if t.strip = text "none" then .ok {} else readWords {} (wordsOf t)

/-- The words of the normal spelling of a style. -/
def normalWords (s : Style) : List Text :=
  (StyleAttribute.names.flatMap fun (switch, name) =>
    match s.switches.lookup switch with
    | none => []
    | some true => [text name]
    | some false => [text "not", text name]) ++
    s.color.toList ++
    (match s.background with
      | none => []
      | some color => [text "on", color]) ++
    (match s.link with
      | none => []
      | some address => [text "link", address])

/-- The normal spelling of a style. -/
def shown (s : Style) : Text :=
  match s.normalWords with
  | [] => text "none"
  | words => Text.join (text " ") words

/-- The normal spelling of what may be a style. What is none is compared without regard to case. -/
def normalName (t : Text) : Except StyleFault Text :=
  match ofText t with
  | .ok s => .ok s.shown
  | .error .misspelled => .ok t.strip.lower
  | .error fault => .error fault

end Style

end EntityForge
