import SourceOutline.Text.Digit
import SourceOutline.Text.Lower
import SourceOutline.Text.Split

/-!
# Styles of marked-up text

A style is written in words: attributes such as `bold` or their abbreviations,
`not` before an attribute that is switched off, a colour, `on` before the colour
of the background, `link` before an address.  Two ways to write the same style
have one canonical text, by which a closing tag finds the tag that it closes.
What is no style is its own canonical text in small letters.
-/

namespace SourceOutline
namespace Markup

inductive Attribute where
  | bold | dim | italic | underline | blink | blink2 | reverse | conceal | strike
  | underline2 | frame | encircle | overline
  deriving DecidableEq, Repr

namespace Attribute

/-- The attributes in canonical order, each with its word and its abbreviation. -/
def spellings : List (Attribute × List String) :=
  [(bold, ["bold", "b"]), (dim, ["dim", "d"]), (italic, ["italic", "i"]),
    (underline, ["underline", "u"]), (blink, ["blink"]), (blink2, ["blink2"]),
    (reverse, ["reverse", "r"]), (conceal, ["conceal", "c"]), (strike, ["strike", "s"]),
    (underline2, ["underline2", "uu"]), (frame, ["frame"]), (encircle, ["encircle"]),
    (overline, ["overline", "o"])]

def named? (word : String) : Option Attribute :=
  (spellings.find? fun entry => entry.2.contains word).map Prod.fst

end Attribute

/-- Names of colours, separated by blanks. -/
def colourNames : String := "
  default black red green yellow blue magenta cyan white bright_black bright_red bright_green
  bright_yellow bright_blue bright_magenta bright_cyan bright_white grey0 gray0 navy_blue
  dark_blue blue3 blue1 dark_green deep_sky_blue4 dodger_blue3 dodger_blue2 green4 spring_green4
  turquoise4 deep_sky_blue3 dodger_blue1 green3 spring_green3 dark_cyan light_sea_green
  deep_sky_blue2 deep_sky_blue1 spring_green2 cyan3 dark_turquoise turquoise2 green1
  spring_green1 medium_spring_green cyan2 cyan1 dark_red deep_pink4 purple4 purple3 blue_violet
  orange4 grey37 gray37 medium_purple4 slate_blue3 royal_blue1 chartreuse4 dark_sea_green4
  pale_turquoise4 steel_blue steel_blue3 cornflower_blue chartreuse3 cadet_blue sky_blue3
  steel_blue1 pale_green3 sea_green3 aquamarine3 medium_turquoise chartreuse2 sea_green2
  sea_green1 aquamarine1 dark_slate_gray2 dark_magenta dark_violet purple light_pink4 plum4
  medium_purple3 slate_blue1 yellow4 wheat4 grey53 gray53 light_slate_grey light_slate_gray
  medium_purple light_slate_blue dark_olive_green3 dark_sea_green light_sky_blue3 sky_blue2
  dark_sea_green3 dark_slate_gray3 sky_blue1 chartreuse1 light_green pale_green1
  dark_slate_gray1 red3 medium_violet_red magenta3 dark_orange3 indian_red hot_pink3
  medium_orchid3 medium_orchid medium_purple2 dark_goldenrod light_salmon3 rosy_brown grey63
  gray63 medium_purple1 gold3 dark_khaki navajo_white3 grey69 gray69 light_steel_blue3
  light_steel_blue yellow3 dark_sea_green2 light_cyan3 light_sky_blue1 green_yellow
  dark_olive_green2 dark_sea_green1 pale_turquoise1 deep_pink3 magenta2 hot_pink2 orchid
  medium_orchid1 orange3 light_pink3 pink3 plum3 violet light_goldenrod3 tan misty_rose3
  thistle3 plum2 khaki3 light_goldenrod2 light_yellow3 grey84 gray84 light_steel_blue1 yellow2
  dark_olive_green1 honeydew2 light_cyan1 red1 deep_pink2 deep_pink1 magenta1 orange_red1
  indian_red1 hot_pink dark_orange salmon1 light_coral pale_violet_red1 orchid2 orchid1 orange1
  sandy_brown light_salmon1 light_pink1 pink1 plum1 gold1 navajo_white1 misty_rose1 thistle1
  yellow1 light_goldenrod1 khaki1 wheat1 cornsilk1 grey100 gray100 grey3 gray3 grey7 gray7
  grey11 gray11 grey15 gray15 grey19 gray19 grey23 gray23 grey27 gray27 grey30 gray30 grey35
  gray35 grey39 gray39 grey42 gray42 grey46 gray46 grey50 gray50 grey54 gray54 grey58 gray58
  grey62 gray62 grey66 gray66 grey70 gray70 grey74 gray74 grey78 gray78 grey82 gray82 grey85
  gray85 grey89 gray89 grey93 gray93"

def colours : List (List Char) :=
  Text.wordList colourNames.toList

inductive StyleFault where
  | notStyle
  /-- A part of a colour that should be a number is none. -/
  | notNumber (text : String)
  deriving DecidableEq, Repr

/-- The text between a word with an opening parenthesis and a closing one. -/
def between? (opening text : List Char) : Option (List Char) :=
  if opening.isPrefixOf text && text.getLast? == some ')' then
    some ((text.drop opening.length).dropLast)
  else none

def isHexDigit (c : Char) : Bool :=
  c.isDigit || ('a' ≤ c && c ≤ 'f')

def decimal (digits : List Char) : Nat :=
  digits.foldl (fun value digit => 10 * value + (digit.toNat - '0'.toNat)) 0

def largestPart : Nat := 255

/-- Whether the three parts of a colour are numbers that are not too large. -/
def checkParts (parts : List (List Char)) : Except StyleFault Unit :=
  match parts.find? List.isEmpty with
  | some part => .error (.notNumber (String.ofList part))
  | none => if parts.all (decimal · ≤ largestPart) then .ok () else .error .notStyle

/-- Whether a word in small letters is a colour: a name, six hexadecimal digits,
a number of the palette, or three numbers for red, green and blue. -/
def checkColour (word : List Char) : Except StyleFault Unit :=
  let inPalette (digits : List Char) : Bool :=
    !digits.isEmpty && digits.length ≤ 3 && digits.all Char.isDigit && decimal digits ≤ largestPart
  if colours.contains word then .ok ()
  else
    match word, between? "color(".toList word, between? "rgb(".toList word with
    | '#' :: digits, _, _ =>
        if digits.length == 6 && digits.all isHexDigit then .ok () else .error .notStyle
    | _, some digits, _ => if inPalette digits then .ok () else .error .notStyle
    | _, _, some inner =>
        let inner := inner.map Text.asciiDigit
        let parts := Text.split ',' inner
        if !inner.isEmpty && inner.all (fun c => c.isDigit || c = ',') && parts.length == 3 then
          checkParts parts
        else .error .notStyle
    | _, _, _ => .error .notStyle

/-- A style.  Of an attribute that is given several times the last one counts. -/
structure Style where
  attributes : List (Attribute × Bool) := []
  colour : Option (List Char) := none
  background : Option (List Char) := none
  link : Option (List Char) := none

namespace Style

/-- Reads the words of a style. -/
def ofWords (style : Style) : List (List Char) → Except StyleFault Style
  | [] => .ok style
  | word :: rest =>
      let small := Text.lower word
      let name := String.ofList small
      if name = "on" then
        match rest with
        | [] => .error .notStyle
        | colour :: rest => do
            let colour := Text.lower colour
            checkColour colour
            ofWords { style with background := some colour } rest
      else if name = "not" then
        match rest with
        | [] => .error .notStyle
        | word :: rest =>
            match Attribute.named? (String.ofList word) with
            | none => .error .notStyle
            | some effect =>
                ofWords { style with attributes := (effect, false) :: style.attributes } rest
      else if name = "link" then
        match rest with
        | [] => .error .notStyle
        | address :: rest => ofWords { style with link := some address } rest
      else
        match Attribute.named? name with
        | some effect =>
            ofWords { style with attributes := (effect, true) :: style.attributes } rest
        | none => do
            checkColour small
            ofWords { style with colour := some small } rest

def attributeWords (style : Style) (entry : Attribute × List String) : List (List Char) :=
  match style.attributes.lookup entry.1, entry.2 with
  | some true, word :: _ => [word.toList]
  | some false, word :: _ => ["not".toList, word.toList]
  | _, _ => []

def words (style : Style) : List (List Char) :=
  Attribute.spellings.flatMap style.attributeWords ++ style.colour.toList ++
    style.background.elim [] (["on".toList, ·]) ++ style.link.elim [] (["link".toList, ·])

end Style

/-- The canonical text of a style. -/
def canonical (text : List Char) : Except StyleFault (List Char) :=
  let plain := Text.lower (Text.trim text)
  if Text.trim text = "none".toList then .ok plain
  else
    match Style.ofWords {} (Text.wordList text) with
    | .ok style => .ok (List.intercalate [' '] style.words)
    | .error .notStyle => .ok plain
    | .error fault => .error fault

end Markup
end SourceOutline
