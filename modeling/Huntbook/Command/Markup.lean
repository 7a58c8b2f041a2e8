import Huntbook.Fault
import Huntbook.Text.Case
import Huntbook.Text.Pieces

/-!
# Marked-up texts

What is printed may have tags in brackets that say how it looks: `[bold]` starts a style, `[/bold]`
ends it, and `[/]` ends the style that was started last.
-/

namespace Huntbook.Command

/-! ## Styles

How a piece of text looks: bold or dim, in a colour, on another one. Styles are not shown here, but
two ways to write one style have to be told from two styles, so a style is written in one way: the
looks in a fixed order, then the colour, the colour behind it and the link. -/

def colourLines : Texts :=
  ["black red green yellow blue magenta cyan white bright_black bright_red bright_green",
   "bright_yellow bright_blue bright_magenta bright_cyan bright_white grey0 gray0 navy_blue",
   "dark_blue blue3 blue1 dark_green deep_sky_blue4 dodger_blue3 dodger_blue2 green4",
   "spring_green4 turquoise4 deep_sky_blue3 dodger_blue1 green3 spring_green3 dark_cyan",
   "light_sea_green deep_sky_blue2 deep_sky_blue1 spring_green2 cyan3 dark_turquoise",
   "turquoise2 green1 spring_green1 medium_spring_green cyan2 cyan1 dark_red deep_pink4",
   "purple4 purple3 blue_violet orange4 grey37 gray37 medium_purple4 slate_blue3 royal_blue1",
   "chartreuse4 dark_sea_green4 pale_turquoise4 steel_blue steel_blue3 cornflower_blue",
   "chartreuse3 cadet_blue sky_blue3 steel_blue1 pale_green3 sea_green3 aquamarine3",
   "medium_turquoise chartreuse2 sea_green2 sea_green1 aquamarine1 dark_slate_gray2",
   "dark_magenta dark_violet purple light_pink4 plum4 medium_purple3 slate_blue1 yellow4",
   "wheat4 grey53 gray53 light_slate_grey light_slate_gray medium_purple light_slate_blue",
   "dark_olive_green3 dark_sea_green light_sky_blue3 sky_blue2 dark_sea_green3",
   "dark_slate_gray3 sky_blue1 chartreuse1 light_green pale_green1 dark_slate_gray1 red3",
   "medium_violet_red magenta3 dark_orange3 indian_red hot_pink3 medium_orchid3 medium_orchid",
   "medium_purple2 dark_goldenrod light_salmon3 rosy_brown grey63 gray63 medium_purple1 gold3",
   "dark_khaki navajo_white3 grey69 gray69 light_steel_blue3 light_steel_blue yellow3",
   "dark_sea_green2 light_cyan3 light_sky_blue1 green_yellow dark_olive_green2 dark_sea_green1",
   "pale_turquoise1 deep_pink3 magenta2 hot_pink2 orchid medium_orchid1 orange3 light_pink3",
   "pink3 plum3 violet light_goldenrod3 tan misty_rose3 thistle3 plum2 khaki3 light_goldenrod2",
   "light_yellow3 grey84 gray84 light_steel_blue1 yellow2 dark_olive_green1 honeydew2",
   "light_cyan1 red1 deep_pink2 deep_pink1 magenta1 orange_red1 indian_red1 hot_pink",
   "dark_orange salmon1 light_coral pale_violet_red1 orchid2 orchid1 orange1 sandy_brown",
   "light_salmon1 light_pink1 pink1 plum1 gold1 navajo_white1 misty_rose1 thistle1 yellow1",
   "light_goldenrod1 khaki1 wheat1 cornsilk1 grey100 gray100 grey3 gray3 grey7 gray7 grey11",
   "gray11 grey15 gray15 grey19 gray19 grey23 gray23 grey27 gray27 grey30 gray30 grey35 gray35",
   "grey39 gray39 grey42 gray42 grey46 gray46 grey50 gray50 grey54 gray54 grey58 gray58 grey62",
   "gray62 grey66 gray66 grey70 gray70 grey74 gray74 grey78 gray78 grey82 gray82 grey85 gray85",
   "grey89 gray89 grey93 gray93"]

def colourNames : Texts := "default" :: colourLines.flatMap Text.words

def isTriple (parts : List Chars) : Try Bool := do
  if parts.length != 3 then return false
  let numbers ← parts.mapM (Fault.readBase 10)
  return numbers.all (· ≤ 255)

def enclosed? (word : String) (cs : Chars) : Option Chars :=
  let start := word.toList ++ ['(']
  if start.isPrefixOf cs && cs.getLast? == some ')' then some (cs.drop start.length).dropLast
  else none

def isColour (word : String) : Try Bool :=
  let cs := (Text.lower word).toList
  let isHex (c : Char) : Bool := c.isDigit || ('a' ≤ c && c ≤ 'f')
  if colourNames.contains (String.ofList cs) then .ok true
  else match cs, enclosed? "color" cs, enclosed? "rgb" cs with
    | '#' :: digits, _, _ => .ok (digits.length == 6 && digits.all isHex)
    | _, some digits, _ =>
      .ok (!digits.isEmpty && digits.length ≤ 3 && digits.all Char.isDigit
        && Decimal.natOf digits ≤ 255)
    | _, none, some inside =>
      if !inside.isEmpty && inside.all (fun c => Text.isDecimal c || c == ',') then
        isTriple (Text.splitList ',' inside)
      else .ok false
    | _, none, none => .ok false

def looks : List (String × Texts) :=
  [("bold", ["b"]), ("dim", ["d"]), ("italic", ["i"]), ("underline", ["u"]), ("blink", []),
   ("blink2", []), ("reverse", ["r"]), ("conceal", ["c"]), ("strike", ["s"]),
   ("underline2", ["uu"]), ("frame", []), ("encircle", []), ("overline", ["o"])]

def look? (word : String) : Option String :=
  (looks.find? fun l => l.1 == word || l.2.contains word).map (·.1)

structure Style where
  looks : List (String × Bool) := []
  colour : Option String := none
  ground : Option String := none
  link : Option String := none

namespace Style

def ofWords (s : Style) : Texts → Try (Option Style)
  | [] => .ok (some s)
  | word :: rest =>
    match Text.lower word, rest with
    | "on", [] => .ok none
    | "on", ground :: rest => do
      if ← isColour ground then ofWords { s with ground := some (Text.lower ground) } rest
      else return none
    | "not", [] => .ok none
    | "not", word :: rest =>
      match look? word with
      | some look => ofWords { s with looks := (look, false) :: s.looks } rest
      | none => .ok none
    | "link", [] => .ok none
    | "link", link :: rest => ofWords { s with link := some link } rest
    | lower, rest =>
      match look? lower with
      | some look => ofWords { s with looks := (look, true) :: s.looks } rest
      | none => do
        if ← isColour lower then ofWords { s with colour := some lower } rest else return none

def text (s : Style) : String :=
  let looks := Command.looks.filterMap fun (look, _) =>
    (s.looks.lookup look).map fun wanted => if wanted then look else "not " ++ look
  let words := looks ++ s.colour.toList ++ (s.ground.map ("on " ++ ·)).toList
    ++ (s.link.map ("link " ++ ·)).toList
  if words.isEmpty then "none" else " ".intercalate words

/-- The one way to write what a text says of a style; a text that describes none is taken as it
    is, in lower case. -/
def normal (s : String) : Try String := do
  if Text.trim s == "none" then return "none"
  match ← ofWords {} (Text.words s) with
  | some style => return style.text
  | none => return Text.lower (Text.trim s)

end Style

end Huntbook.Command

namespace Huntbook.Command.Markup

structure Flaw where
  tag : String
  position : Nat

def Flaw.message (f : Flaw) : String :=
  s!"closing tag '{f.tag}' at position {f.position} "
    ++ (if f.tag == "[/]" then "has nothing to close" else "doesn't match any open tag")

def startsTag (c : Char) : Bool := ('a' ≤ c && c ≤ 'z') || c == '#' || c == '/' || c == '@'

def bracket? : Chars → Option Chars
  | '[' :: c :: rest =>
    if startsTag c then
      match rest.span fun d => d != ']' && d != '[' with
      | (body, ']' :: _) => some (c :: body)
      | _ => none
    else none
  | _ => none

def tag? (cs : Chars) : Option (Nat × Chars) :=
  let slashes := cs.takeWhile (· == '\\')
  (bracket? (cs.drop slashes.length)).map (slashes.length, ·)

/-- A text without its tags so far, and the styles that are started, latest first. -/
structure Progress where
  text : Chars
  styles : Texts

def Progress.add (p : Progress) (text : Chars) : Progress :=
  let shown := Text.replace (String.ofList text) "\\[" "["
  { p with text := shown.toList.reverse ++ p.text }

def Progress.tag (p : Progress) (position : Nat) (body : Chars) : Try Progress :=
  match body.takeWhile (· != '=') with
  | '/' :: name =>
    if name.all Text.isBlank then
      match p.styles with
      | [] => .error (.unprintable (Flaw.message ⟨"[/]", position⟩))
      | _ :: rest => .ok { p with styles := rest }
    else do
      let style ← Style.normal (Text.trim (String.ofList name))
      if p.styles.contains style then return { p with styles := p.styles.erase style }
      let flaw : Flaw := ⟨String.ofList (['['] ++ body ++ [']']), position⟩
      throw (.unprintable flaw.message)
  | name => do return { p with styles := (← Style.normal (String.ofList name)) :: p.styles }

/-- A tag with backslashes before it taken into account: of two backslashes one is shown, and a
    single one before the tag makes it text. -/
def Progress.escapedTag (p : Progress) (position slashes : Nat) (body : Chars) :
    Try Progress :=
  let p := p.add (List.replicate (slashes / 2) '\\')
  if slashes % 2 == 1 then .ok (p.add (['['] ++ body ++ [']']))
  else p.tag (position + slashes) body

/-- The rest of a text; `skip` characters of it belong to a tag that has been taken into account,
    and `before` is the text since then, latest character first. -/
def plainFrom (position : Nat) : Nat → Chars → Progress → Chars → Try Progress
  | _, before, p, [] => .ok (p.add before.reverse)
  | skip + 1, before, p, _ :: rest => plainFrom (position + 1) skip before p rest
  | 0, before, p, c :: rest =>
    match tag? (c :: rest) with
    | none => plainFrom (position + 1) 0 (c :: before) p rest
    | some (slashes, body) => do
      let p ← (p.add before.reverse).escapedTag position slashes body
      plainFrom (position + 1) (slashes + body.length + 1) [] p rest

/-- Whether a character moves what is printed and is left out: a bell, a backspace, a vertical
    tab, a form feed or a carriage return. -/
def isControl (c : Char) : Bool := [7, 8, 11, 12, 13].contains c.toNat

def plain (s : String) : Try String := do
  let p ← plainFrom 0 0 [] ⟨[], []⟩ s.toList
  return String.ofList (p.text.reverse.filter (!isControl ·))

end Huntbook.Command.Markup
