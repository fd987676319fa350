import ClusterSubmission.Text.Character
import ClusterSubmission.Text.LetterCase
import ClusterSubmission.Text.Path

/-!
# Styles of the console

A style is put together from words: attributes that are on or off, a colour, a background and a
link. Texts that describe the same style are spelled alike once they are normal; a text that
describes none stands for itself.
-/
namespace ClusterSubmission.Log

/-- The attributes of a style in the order in which they are named, each with its words. -/
def styleAttributes : List (String × List String) :=
  [("bold", ["bold", "b"]), ("dim", ["dim", "d"]), ("italic", ["italic", "i"]),
    ("underline", ["underline", "u"]), ("blink", ["blink"]), ("blink2", ["blink2"]),
    ("reverse", ["reverse", "r"]), ("conceal", ["conceal", "c"]), ("strike", ["strike", "s"]),
    ("underline2", ["underline2", "uu"]), ("frame", ["frame"]), ("encircle", ["encircle"]),
    ("overline", ["overline", "o"])]

def attributeOf? (word : String) : Option String :=
  (styleAttributes.find? fun a => a.2.contains word).map (·.1)

def basicColours : List String :=
  ["black", "red", "green", "yellow", "blue", "magenta", "cyan", "white"]

/-- The further colours that have a name, by the number at its end, if there is one. -/
def namedShades : List (String × List String) :=
  [("", [
    "blue_violet", "cadet_blue", "cornflower_blue", "dark_blue", "dark_cyan", "dark_goldenrod",
    "dark_green", "dark_khaki", "dark_magenta", "dark_orange", "dark_red", "dark_sea_green",
    "dark_turquoise", "dark_violet", "green_yellow", "hot_pink", "indian_red", "light_coral",
    "light_green", "light_sea_green", "light_slate_blue", "light_slate_gray", "light_slate_grey",
    "light_steel_blue", "medium_orchid", "medium_purple", "medium_spring_green",
    "medium_turquoise", "medium_violet_red", "navy_blue", "orchid", "purple", "rosy_brown",
    "sandy_brown", "steel_blue", "tan", "violet"]),
  ("1", [
    "aquamarine", "blue", "chartreuse", "cornsilk", "cyan", "dark_olive_green", "dark_sea_green",
    "dark_slate_gray", "deep_pink", "deep_sky_blue", "dodger_blue", "gold", "green", "indian_red",
    "khaki", "light_cyan", "light_goldenrod", "light_pink", "light_salmon", "light_sky_blue",
    "light_steel_blue", "magenta", "medium_orchid", "medium_purple", "misty_rose", "navajo_white",
    "orange", "orange_red", "orchid", "pale_green", "pale_turquoise", "pale_violet_red", "pink",
    "plum", "red", "royal_blue", "salmon", "sea_green", "sky_blue", "slate_blue", "spring_green",
    "steel_blue", "thistle", "wheat", "yellow"]),
  ("2", [
    "chartreuse", "cyan", "dark_olive_green", "dark_sea_green", "dark_slate_gray", "deep_pink",
    "deep_sky_blue", "dodger_blue", "honeydew", "hot_pink", "light_goldenrod", "magenta",
    "medium_purple", "orchid", "plum", "sea_green", "sky_blue", "spring_green", "turquoise",
    "yellow"]),
  ("3", [
    "aquamarine", "blue", "chartreuse", "cyan", "dark_olive_green", "dark_orange",
    "dark_sea_green", "dark_slate_gray", "deep_pink", "deep_sky_blue", "dodger_blue", "gold",
    "green", "hot_pink", "khaki", "light_cyan", "light_goldenrod", "light_pink", "light_salmon",
    "light_sky_blue", "light_steel_blue", "light_yellow", "magenta", "medium_orchid",
    "medium_purple", "misty_rose", "navajo_white", "orange", "pale_green", "pink", "plum",
    "purple", "red", "sea_green", "sky_blue", "slate_blue", "spring_green", "steel_blue",
    "thistle", "yellow"]),
  ("4", [
    "chartreuse", "dark_sea_green", "deep_pink", "deep_sky_blue", "green", "light_pink",
    "medium_purple", "orange", "pale_turquoise", "plum", "purple", "spring_green", "turquoise",
    "wheat", "yellow"])]

/-- How light the shades of grey are that have a name. -/
def greyShades : List String :=
  ["0", "3", "7", "11", "15", "19", "23", "27", "30", "35", "37", "39", "42", "46", "50", "53",
   "54", "58", "62", "63", "66", "69", "70", "74", "78", "82", "84", "85", "89", "93", "100"]

def colourNames : List String :=
  "default" :: basicColours ++ basicColours.map ("bright_" ++ ·) ++
    namedShades.flatMap (fun e => e.2.map (· ++ e.1)) ++ greyShades.map ("grey" ++ ·) ++
    greyShades.map ("gray" ++ ·)

/-- What stands in the parentheses behind a name, if a word is nothing else. -/
def argument? (name : String) (word : List Char) : Option (List Char) :=
  if (name ++ "(").toList.isPrefixOf word && word.getLast? == some ')' then
    some (word.drop (name.length + 1)).dropLast
  else none

def isColourCode (ds : List Char) : Bool :=
  ds.length = 6 && ds.all fun c => c.isDigit || ('a' ≤ c && c ≤ 'f')

def isColourNumber (ds : List Char) : Bool :=
  ds != [] && ds.length ≤ 3 && ds.all Char.isDigit && Text.digitsValue ds ≤ 255

def isComponent (ds : List Char) : Bool :=
  ds != [] && ds.all Text.isDigit && Text.digitsValue ds ≤ 255

/-- Whether a word names a colour, or gives it as a code, a number or three components. Components
that are no numbers make no colour. -/
def isColour (word : String) : Bool :=
  let cs := word.toList
  let components := (argument? "rgb" cs).map (Text.splitOnChar ',')
  colourNames.contains word || (cs.head? == some '#' && isColourCode (cs.drop 1)) ||
    (argument? "color" cs).any isColourNumber ||
    components.any fun parts => parts.length = 3 && parts.all isComponent

/-- A style as it is put together from words: attributes on or off, a colour, a background and a
link. -/
structure StyleWords where
  attributes : List (String × Bool) := []
  colour : Option String := none
  background : Option String := none
  link : Option String := none

/-- The style that words describe, if they describe one. -/
def styleOfWords? (s : StyleWords) : List String → Option StyleWords
  | [] => some s
  | word :: rest =>
    let low := Text.lower word
    if low == "on" then
      match rest with
      | w :: rest =>
        if isColour (Text.lower w) then
          styleOfWords? { s with background := some (Text.lower w) } rest
        else none
      | [] => none
    else if low == "not" then
      match rest with
      | w :: rest =>
        match attributeOf? w with
        | some a => styleOfWords? { s with attributes := (a, false) :: s.attributes } rest
        | none => none
      | [] => none
    else if low == "link" then
      match rest with
      | w :: rest => styleOfWords? { s with link := some w } rest
      | [] => none
    else match attributeOf? low with
      | some a => styleOfWords? { s with attributes := (a, true) :: s.attributes } rest
      | none => if isColour low then styleOfWords? { s with colour := some low } rest else none

/-- The words of a style in their fixed order. -/
def StyleWords.text (s : StyleWords) : String :=
  let attributes := styleAttributes.filterMap fun a =>
    (s.attributes.find? (·.1 == a.1)).map fun x => if x.2 then a.1 else "not " ++ a.1
  let background := match s.background with
    | some c => ["on " ++ c]
    | none => []
  let link := match s.link with
    | some l => ["link " ++ l]
    | none => []
  match attributes ++ s.colour.toList ++ background ++ link with
  | [] => "none"
  | words => String.intercalate " " words

def wordsOf (s : String) : List String :=
  let step (c : Char) (words : List (List Char)) : List (List Char) :=
    if Text.isBlank c then [] :: words
    else match words with
      | w :: ws => (c :: w) :: ws
      | [] => [[c]]
  ((s.toList.foldr step [[]]).filter (!·.isEmpty)).map String.ofList

/-- A style in one spelling: the words of a known style in order, or any other text in lower
case. -/
def normalStyle (s : String) : String :=
  let words := wordsOf s
  if words.isEmpty || Text.strip s == "none" then "none"
  else match styleOfWords? {} words with
    | some style => style.text
    | none => Text.lower (Text.strip s)

end ClusterSubmission.Log
