import Huntbook.Text.Case
import Huntbook.Text.Pieces

/-!
# Tags

A document may hold tags of a markup language. They are recognised, so that nothing in them is
taken for something else, and are not shown.
-/

namespace Huntbook.Markdown

def isTagChar (c : Char) : Bool := c.isAlphanum || c == '-'

def tagName? : Chars → Option Chars
  | c :: rest => if c.isAlpha then some (rest.dropWhile isTagChar) else none
  | [] => none

def quotedEnd? (mark : Char) (cs : Chars) : Option Chars :=
  match cs.dropWhile (· != mark) with
  | _ :: rest => some rest
  | [] => none

def attributeValue? : Chars → Option Chars
  | '"' :: rest => quotedEnd? '"' rest
  | '\'' :: rest => quotedEnd? '\'' rest
  | cs =>
    let isPlain (c : Char) : Bool := c.toNat > 0x20 && !"\"'=<>\x60".toList.contains c
    match cs with
    | c :: rest => if isPlain c then some (rest.dropWhile isPlain) else none
    | [] => none

def attribute? : Chars → Option Chars
  | [] => none
  | b :: rest =>
    if !Text.isBlank b then none
    else match rest.dropWhile Text.isBlank with
      | c :: rest =>
        if !(c.isAlpha || c == '_' || c == ':') then none
        else
          let named := rest.dropWhile fun c => c.isAlphanum || ":._-".toList.contains c
          let valued := match named.dropWhile Text.isBlank with
            | '=' :: rest => attributeValue? (rest.dropWhile Text.isBlank)
            | _ => none
          some (valued.getD named)
      | [] => none

def attributes : Nat → Chars → Chars
  | 0, cs => cs
  | n + 1, cs =>
    match attribute? cs with
    | some rest => attributes n rest
    | none => cs

def openTag? : Chars → Option Chars
  | '<' :: cs => do
    let rest ← tagName? cs
    match (attributes rest.length rest).dropWhile Text.isBlank with
    | '/' :: '>' :: rest => some rest
    | '>' :: rest => some rest
    | _ => none
  | _ => none

def closeTag? : Chars → Option Chars
  | '<' :: '/' :: cs => do
    let rest ← tagName? cs
    match rest.dropWhile Text.isBlank with
    | '>' :: rest => some rest
    | _ => none
  | _ => none

def after? (needle : Chars) : Chars → Option Chars
  | [] => none
  | c :: cs =>
    match Text.dropStart? needle (c :: cs) with
    | some rest => some rest
    | none => after? needle cs

def commentEnd? (cs : Chars) : Option Chars :=
  match Text.dropStart? "-->".toList cs with
  | some rest => some rest
  | none =>
    match cs with
    | '>' :: _ => none
    | '-' :: '>' :: _ => none
    | '-' :: '-' :: _ => none
    | cs => match after? "--".toList cs with
      | some ('>' :: rest) => some rest
      | _ => none

def declarationEnd? (cs : Chars) : Option Chars :=
  let named := cs.dropWhile Char.isUpper
  match named with
  | b :: _ => if named.length < cs.length && Text.isBlank b then after? ['>'] named else none
  | [] => none

def tagEnd? (cs : Chars) : Option Chars :=
  (openTag? cs).orElse fun _ => (closeTag? cs).orElse fun _ =>
    match cs with
    | '<' :: '?' :: rest => after? "?>".toList rest
    | '<' :: '!' :: '-' :: '-' :: rest => commentEnd? rest
    | '<' :: '!' :: rest =>
      match Text.dropStart? "[CDATA[".toList rest with
      | some rest => after? "]]>".toList rest
      | none => declarationEnd? rest
    | _ => none

inductive TagBlock
  | verbatim | comment | instruction | declaration | data | element | other
  deriving DecidableEq

def verbatimNames : Texts := ["script", "pre", "style", "textarea"]

def elementNames : Texts :=
  ["address", "article", "aside", "base", "basefont", "blockquote", "body", "caption", "center",
   "col", "colgroup", "dd", "details", "dialog", "dir", "div", "dl", "dt", "fieldset",
   "figcaption", "figure", "footer", "form", "frame", "frameset", "h1", "h2", "h3", "h4", "h5",
   "h6", "head", "header", "hr", "html", "iframe", "legend", "li", "link", "main", "menu",
   "menuitem", "nav", "noframes", "ol", "optgroup", "option", "p", "param", "section", "source",
   "summary", "table", "tbody", "td", "tfoot", "th", "thead", "title", "tr", "track", "ul"]

def dropWord? : Chars → Chars → Option Chars
  | [], cs => some cs
  | _ :: _, [] => none
  | w :: ws, c :: cs => if Text.equalsFold w c then dropWord? ws cs else none

def startsWithName (names : Texts) (follows : Chars → Bool) (cs : Chars) : Bool :=
  names.any fun name => (dropWord? name.toList cs).any follows

def anyTag? (cs : Chars) : Option Chars := (openTag? cs).orElse fun _ => closeTag? cs

namespace TagBlock

def ofLine? (line : Chars) : Option TagBlock :=
  match line with
  | '<' :: rest =>
    let blankOrEnd (cs : Chars) : Bool := cs.head?.all Text.isBlank
    let ends (cs : Chars) : Bool := blankOrEnd cs || cs.head? == some '>'
    let closes (cs : Chars) : Bool := ends cs || "/>".toList.isPrefixOf cs
    if startsWithName verbatimNames ends rest then some .verbatim
    else if "!--".toList.isPrefixOf rest then some .comment
    else if rest.head? == some '?' then some .instruction
    else if (match rest with
      | '!' :: c :: _ => c.isUpper
      | _ => false) then some .declaration
    else if "![CDATA[".toList.isPrefixOf rest then some .data
    else
      let name := if rest.head? == some '/' then rest.drop 1 else rest
      if startsWithName elementNames closes name then some .element
      else if (anyTag? line).any fun after => after.all Text.isBlank then some .other
      else none
  | _ => none

def interrupts : TagBlock → Bool
  | .other => false
  | _ => true

def hasVerbatimEnd : Chars → Bool
  | [] => false
  | c :: cs =>
    (c == '<' && cs.head? == some '/'
      && startsWithName verbatimNames (fun r => r.head? == some '>') (cs.drop 1))
    || hasVerbatimEnd cs

def endsAt (b : TagBlock) (line : Chars) : Bool :=
  match b with
  | .verbatim => hasVerbatimEnd line
  | .comment => Text.hasInfix "-->".toList line
  | .instruction => Text.hasInfix "?>".toList line
  | .declaration => line.contains '>'
  | .data => Text.hasInfix "]]>".toList line
  | .element => line.isEmpty
  | .other => line.isEmpty

end TagBlock

end Huntbook.Markdown
