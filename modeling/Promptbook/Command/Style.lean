import Promptbook.Number.Numeral
import Promptbook.Text.Lower
import Promptbook.Text.Split

/-!
# Styles

A style is told in words: marks such as bold, which may be turned on or off, a color, a color
behind the text and a link.  Two texts that tell the same style have the same normal form, in which
the marks stand in a fixed order.
-/

namespace Promptbook.Command

/-- Why a text tells no style. -/
inductive StyleFault where
  | unknown
  /-- A part of a color by its three parts is empty. -/
  | emptyPart
  /-- A part of a color by its three parts has too many digits. -/
  | longPart (digits : Nat)
  deriving DecidableEq, Repr

/-- The wording of a text that tells no style. -/
def StyleFault.message : StyleFault → String
  | unknown => "unknown style"
  | emptyPart => "invalid literal for int() with base 10: ''"
  | longPart digits => Numeral.tooManyDigits digits

/-- A style: the marks that are turned on or off, the last decision first, and the rest. -/
structure Style where
  marks : List (String × Bool) := []
  color : Option String := none
  background : Option String := none
  link : Option String := none
  deriving DecidableEq, Repr

namespace Style

/-- The marks in the order of the normal form. -/
def markNames : List String := [
  "bold", "dim", "italic", "underline", "blink", "blink2", "reverse", "conceal", "strike",
  "underline2", "frame", "encircle", "overline"]

/-- The marks that have a short name, under that name. -/
def shortNames : List (String × String) := [
  ("b", "bold"), ("d", "dim"), ("i", "italic"), ("u", "underline"), ("r", "reverse"),
  ("c", "conceal"), ("s", "strike"), ("uu", "underline2"), ("o", "overline")]

/-- The mark that a word names. -/
def mark? (word : String) : Option String :=
  if word ∈ markNames then some word else shortNames.lookup word

/-- The colors that have a name. -/
def colorNames : List String := [
  "black", "red", "green", "yellow", "blue", "magenta", "cyan", "white", "bright_black",
  "bright_red", "bright_green", "bright_yellow", "bright_blue", "bright_magenta", "bright_cyan",
  "bright_white", "grey0", "gray0", "navy_blue", "dark_blue", "blue3", "blue1", "dark_green",
  "deep_sky_blue4", "dodger_blue3", "dodger_blue2", "green4", "spring_green4", "turquoise4",
  "deep_sky_blue3", "dodger_blue1", "green3", "spring_green3", "dark_cyan", "light_sea_green",
  "deep_sky_blue2", "deep_sky_blue1", "spring_green2", "cyan3", "dark_turquoise", "turquoise2",
  "green1", "spring_green1", "medium_spring_green", "cyan2", "cyan1", "dark_red", "deep_pink4",
  "purple4", "purple3", "blue_violet", "orange4", "grey37", "gray37", "medium_purple4",
  "slate_blue3", "royal_blue1", "chartreuse4", "dark_sea_green4", "pale_turquoise4", "steel_blue",
  "steel_blue3", "cornflower_blue", "chartreuse3", "cadet_blue", "sky_blue3", "steel_blue1",
  "pale_green3", "sea_green3", "aquamarine3", "medium_turquoise", "chartreuse2", "sea_green2",
  "sea_green1", "aquamarine1", "dark_slate_gray2", "dark_magenta", "dark_violet", "purple",
  "light_pink4", "plum4", "medium_purple3", "slate_blue1", "yellow4", "wheat4", "grey53", "gray53",
  "light_slate_grey", "light_slate_gray", "medium_purple", "light_slate_blue", "dark_olive_green3",
  "dark_sea_green", "light_sky_blue3", "sky_blue2", "dark_sea_green3", "dark_slate_gray3",
  "sky_blue1", "chartreuse1", "light_green", "pale_green1", "dark_slate_gray1", "red3",
  "medium_violet_red", "magenta3", "dark_orange3", "indian_red", "hot_pink3", "medium_orchid3",
  "medium_orchid", "medium_purple2", "dark_goldenrod", "light_salmon3", "rosy_brown", "grey63",
  "gray63", "medium_purple1", "gold3", "dark_khaki", "navajo_white3", "grey69", "gray69",
  "light_steel_blue3", "light_steel_blue", "yellow3", "dark_sea_green2", "light_cyan3",
  "light_sky_blue1", "green_yellow", "dark_olive_green2", "dark_sea_green1", "pale_turquoise1",
  "deep_pink3", "magenta2", "hot_pink2", "orchid", "medium_orchid1", "orange3", "light_pink3",
  "pink3", "plum3", "violet", "light_goldenrod3", "tan", "misty_rose3", "thistle3", "plum2",
  "khaki3", "light_goldenrod2", "light_yellow3", "grey84", "gray84", "light_steel_blue1", "yellow2",
  "dark_olive_green1", "honeydew2", "light_cyan1", "red1", "deep_pink2", "deep_pink1", "magenta1",
  "orange_red1", "indian_red1", "hot_pink", "dark_orange", "salmon1", "light_coral",
  "pale_violet_red1", "orchid2", "orchid1", "orange1", "sandy_brown", "light_salmon1",
  "light_pink1", "pink1", "plum1", "gold1", "navajo_white1", "misty_rose1", "thistle1", "yellow1",
  "light_goldenrod1", "khaki1", "wheat1", "cornsilk1", "grey100", "gray100", "grey3", "gray3",
  "grey7", "gray7", "grey11", "gray11", "grey15", "gray15", "grey19", "gray19", "grey23", "gray23",
  "grey27", "gray27", "grey30", "gray30", "grey35", "gray35", "grey39", "gray39", "grey42",
  "gray42", "grey46", "gray46", "grey50", "gray50", "grey54", "gray54", "grey58", "gray58",
  "grey62", "gray62", "grey66", "gray66", "grey70", "gray70", "grey74", "gray74", "grey78",
  "gray78", "grey82", "gray82", "grey85", "gray85", "grey89", "gray89", "grey93", "gray93"]

/-- The text between an opening text and a closing bracket. -/
def argument? (opening : String) (cs : List Char) : Option (List Char) :=
  if opening.toList.isPrefixOf cs ∧ cs.getLast? = some ')' then
    some (cs.drop opening.length).dropLast
  else none

/-- Whether characters are six lower-case hexadecimal digits behind a number sign. -/
def isHexColor (cs : List Char) : Bool :=
  match cs with
  | '#' :: ds => ds.length == 6 && ds.all fun d => (Text.hexValue? d).isSome && d == d.toLower
  | _ => false

/-- Whether characters are one to three digits of a number below 256. -/
def isColorNumber (ds : List Char) : Bool :=
  ds ≠ [] && ds.length ≤ 3 && ds.all Char.isDigit && Text.natOfDigits ds < 256

/-- Whether characters are digits of any script. -/
def areDigits (ds : List Char) : Bool := ds.all fun d => (Text.digitValue? d).isSome

/-- The number of a part of a color. -/
def partNumber (ds : List Char) : Except StyleFault Nat :=
  if ds.isEmpty then .error .emptyPart
  else if Numeral.digitLimit < ds.length then .error (.longPart ds.length)
  else .ok (Text.natOfDigits (ds.map Text.asciiDigit))

/-- Checks that characters are three numbers below 256 between commas. -/
def checkParts (cs : List Char) : Except StyleFault Unit := do
  let parts := Text.cut ',' cs
  if cs = [] ∨ !parts.all areDigits ∨ parts.length ≠ 3 then .error .unknown
  else
    let numbers ← parts.mapM partNumber
    if numbers.all fun n => n < 256 then .ok () else .error .unknown

/-- The color that a word tells: by name, in hexadecimal digits, by number or by its three parts. -/
def readColor (word : String) : Except StyleFault String :=
  let cs := Text.lower word.toList
  let color := String.ofList cs
  if color = "default" ∨ color ∈ colorNames ∨ isHexColor cs then .ok color
  else if (argument? "color(" cs).any isColorNumber then .ok color
  else match argument? "rgb(" cs with
    | some parts => (checkParts parts).map fun _ => color
    | none => .error .unknown

/-- Adds what words tell to a style. -/
def addWords (s : Style) : List String → Except StyleFault Style
  | [] => .ok s
  | word :: words =>
    let small := String.ofList (Text.lower word.toList)
    if small = "on" then match words with
      | [] => .error .unknown
      | color :: words => do
        let color ← readColor color
        addWords { s with background := some color } words
    else if small = "not" then match words with
      | [] => .error .unknown
      | word :: words =>
        match mark? word with
        | none => .error .unknown
        | some mark => addWords { s with marks := (mark, false) :: s.marks } words
    else if small = "link" then match words with
      | [] => .error .unknown
      | link :: words => addWords { s with link := some link } words
    else match mark? small with
      | some mark => addWords { s with marks := (mark, true) :: s.marks } words
      | none => do
        let color ← readColor small
        addWords { s with color := some color } words

/-- The words of the normal form. -/
def words (s : Style) : List String :=
  (markNames.flatMap fun mark => match s.marks.lookup mark with
    | some true => [mark]
    | some false => ["not", mark]
    | none => []) ++
    s.color.toList ++
    s.background.elim [] (fun color => ["on", color]) ++
    s.link.elim [] (fun link => ["link", link])

/-- The normal form of a style. -/
def text (s : Style) : String :=
  let words := s.words
  if words.isEmpty then "none" else " ".intercalate words

/-- The normal form of the style that a text tells; a text that tells none stands for itself in
lower case, without the blanks around it. -/
def normalForm (cs : List Char) : Except StyleFault String :=
  let trimmed := Text.trim Text.isGap cs
  if trimmed = "none".toList then .ok "none"
  else match addWords {} ((Text.words Text.isGap cs).map String.ofList) with
    | .ok s => .ok s.text
    | .error .unknown => .ok (String.ofList (Text.lower trimmed))
    | .error fault => .error fault

/-- Checks that a text can be taken for a style.  One that tells no style is taken for the style
without marks, but not one with a color that is out of order. -/
def check (cs : List Char) : Except StyleFault Unit := (normalForm cs).map fun _ => ()

end Style

end Promptbook.Command
