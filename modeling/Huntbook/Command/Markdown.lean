import Huntbook.Command.Markup
import Huntbook.Markdown.Block
import Huntbook.Markdown.Inline

/-!
# Printed documents

Answers of a language model are written in Markdown. They are printed without its signs: headings
and emphasis as plain text, items of lists after a bullet or a number, quotations after a bar on
each of their lines, and code as it is.
-/

namespace Huntbook.Command.Markdown

open Huntbook.Markdown

abbrev Labels := List (String × Chars)

def visible (cs : Chars) : Chars := cs.filter fun c => !Markup.isControl c

def pictureText (alternative target : Chars) : Chars :=
  let name := visible alternative
  let name := if name.isEmpty then
      ((Text.splitList '/' (Text.strip (· == '/') (addressOf target))).getLast?).getD []
    else name
  "🌆 ".toList ++ name ++ [' ']

def textLines (cs : Chars) : List Chars := Text.splitList '\n' (visible cs)

def shownLines (labels : Labels) (text : Chars) : List Chars :=
  textLines (shown labels text).text

def shownPictures (labels : Labels) (text : Chars) : List Chars :=
  (shown labels text).pictures.map fun p => pictureText p.1 p.2

def row (labels : Labels) (cells : List Chars) : Chars :=
  ("  ".toList).intercalate (cells.map fun c => (shownLines labels c).flatten)

def itemLines (sign : String) : List Chars → List Chars
  | [] => []
  | first :: rest => (sign.toList ++ first) :: rest

mutual

/-- The lines of a block. A heading of the first level stands in a frame, and one of the second
    level after an empty line; code stands between empty lines, and so does a table, which has a
    line below its header. -/
def lines (labels : Labels) : Block → List Chars
  | .paragraph text => shownLines labels text
  | .heading level text =>
    let inside := shownLines labels text
    if level == 1 then [[]] ++ inside ++ [[]] else if level == 2 then [] :: inside else inside
  | .code text => [[]] ++ textLines (Text.dropEndWhile Text.isBlank text) ++ [[]]
  | .rule => [[]]
  | .quote body => (allLines labels body).map ("▌ ".toList ++ ·)
  | .list first items => listLines labels first items
  | .table header rows => [[], row labels header, []] ++ rows.map (row labels) ++ [[]]
  | .tags => []
  | .definition _ _ => []

def allLines (labels : Labels) : List Block → List Chars
  | [] => []
  | b :: rest => lines labels b ++ allLines labels rest

def listLines (labels : Labels) (first : Option Nat) : List (List Block) → List Chars
  | [] => []
  | body :: rest =>
    let sign := match first with
      | some n => s!" {n} "
      | none => " • "
    itemLines sign (allLines labels body) ++ listLines labels (first.map (· + 1)) rest

end

mutual

def pictures (labels : Labels) : Block → List Chars
  | .paragraph text => shownPictures labels text
  | .heading _ text => shownPictures labels text
  | .quote body => allPictures labels body
  | .list _ items => itemPictures labels items
  | .table header rows => (header ++ rows.flatten).flatMap (shownPictures labels)
  | _ => []

def allPictures (labels : Labels) : List Block → List Chars
  | [] => []
  | b :: rest => pictures labels b ++ allPictures labels rest

def itemPictures (labels : Labels) : List (List Block) → List Chars
  | [] => []
  | body :: rest => allPictures labels body ++ itemPictures labels rest

end

mutual

def defined : Block → Labels
  | .definition key target => [(key, target)]
  | .quote body => allDefined body
  | .list _ items => itemsDefined items
  | _ => []

def allDefined : List Block → Labels
  | [] => []
  | b :: rest => defined b ++ allDefined rest

def itemsDefined : List (List Block) → Labels
  | [] => []
  | body :: rest => allDefined body ++ itemsDefined rest

end

def printed (document : String) : Texts :=
  let blocks := blocksOf document
  let labels := allDefined blocks
  (blocks.flatMap fun b => pictures labels b ++ lines labels b).map String.ofList

end Huntbook.Command.Markdown
