import Huntbook.Markdown.Reference
import Huntbook.Text.Case

/-!
# Targets of links

A link leads to a target, which stands in parentheses after its text or in a definition elsewhere in
the document, and may be followed by a title.
-/

namespace Huntbook.Markdown

def referred? (name : Chars) : Option Chars :=
  let number (base : Nat) (ds : Chars) : Option Chars :=
    let n := numberOf base ds
    if ds.isEmpty || ds.length > 8 || !isReferable n then none else some [Char.ofNat n]
  match name with
  | '#' :: x :: ds =>
    if x == 'x' || x == 'X' then
      if ds.all fun c => (hexValue? c).isSome then number 16 ds else none
    else if (x :: ds).all Char.isDigit then number 10 (x :: ds)
    else none
  | name => named? name

def referenceName? (cs : Chars) : Option Chars :=
  match cs with
  | c :: rest =>
    let tail := rest.takeWhile Char.isAlphanum
    if !(c == '#' || c.isAlpha) || tail.isEmpty || tail.length > 31 then none
    else match rest.drop tail.length with
      | ';' :: _ => some (c :: tail)
      | _ => none
  | [] => none

def unescapedFrom : Nat → Chars → Chars
  | _, [] => []
  | skip + 1, _ :: cs => unescapedFrom skip cs
  | 0, '\\' :: c :: cs =>
    if Text.isSign c then c :: unescapedFrom 1 (c :: cs) else '\\' :: unescapedFrom 0 (c :: cs)
  | 0, '&' :: cs =>
    match referenceName? cs with
    | some name =>
      ((referred? name).getD ('&' :: name ++ [';'])) ++ unescapedFrom (name.length + 1) cs
    | none => '&' :: unescapedFrom 0 cs
  | 0, c :: cs => c :: unescapedFrom 0 cs

def unescaped (cs : Chars) : Chars := unescapedFrom 0 cs

/-- What stands before a closing angle bracket on the same line, and the text after it; `inside`
    has been read, in reverse. -/
def angledTarget? (inside : Chars) : Chars → Option (Chars × Chars)
  | [] => none
  | '\n' :: _ => none
  | '<' :: _ => none
  | '>' :: rest => some (inside.reverse, rest)
  | '\\' :: c :: rest => angledTarget? (c :: '\\' :: inside) rest
  | c :: rest => angledTarget? (c :: inside) rest

/-- A target without brackets around it, up to a blank or a parenthesis that closes more than it
    opened; `inside` has been read, in reverse, with `depth` parentheses open. -/
def bareTarget? (inside : Chars) (depth : Nat) (cs : Chars) :
    Option (Chars × Chars) :=
  let done := if inside.isEmpty || depth > 0 then none else some (inside.reverse, cs)
  match cs with
  | [] => done
  | '\\' :: ' ' :: _ => done
  | '\\' :: c :: rest => bareTarget? (c :: '\\' :: inside) depth rest
  | '(' :: rest => if depth ≥ 32 then none else bareTarget? ('(' :: inside) (depth + 1) rest
  | ')' :: rest =>
    match depth with
    | 0 => done
    | depth + 1 => bareTarget? (')' :: inside) depth rest
  | c :: rest =>
    if c.toNat ≤ 0x20 || c.toNat == 0x7F then done else bareTarget? (c :: inside) depth rest

def target? (cs : Chars) : Option (Chars × Chars) :=
  let found : Option (Chars × Chars) := match cs with
    | '<' :: rest => angledTarget? [] rest
    | cs => bareTarget? [] 0 cs
  found.map fun r => (unescaped r.1, r.2)

def titleEnd? (mark : Char) (inside : Chars) : Chars → Option (Chars × Chars)
  | [] => none
  | '\\' :: c :: rest => titleEnd? mark (c :: '\\' :: inside) rest
  | c :: rest =>
    if c == mark then some (inside.reverse, rest)
    else if c == '(' && mark == ')' then none
    else titleEnd? mark (c :: inside) rest

def title? (cs : Chars) : Option (Chars × Chars) :=
  match cs with
  | '"' :: rest => titleEnd? '"' [] rest
  | '\'' :: rest => titleEnd? '\'' [] rest
  | '(' :: rest => titleEnd? ')' [] rest
  | _ => none

def refusedSchemes : Texts := ["vbscript:", "javascript:", "file:", "data:"]

def allowedData : Texts :=
  ["data:image/gif;", "data:image/png;", "data:image/jpeg;", "data:image/webp;"]

def isAllowed (target : Chars) : Bool :=
  let t := (Text.strip Text.isBlank target).map Char.toLower
  let starts (s : String) : Bool := s.toList.isPrefixOf t
  !refusedSchemes.any starts || allowedData.any starts

def percent (b : UInt8) : Chars :=
  let digit (n : Nat) : Char := (Nat.digitChar n).toUpper
  ['%', digit (b.toNat / 16), digit (b.toNat % 16)]

def isPlainInAddress (c : Char) : Bool :=
  c.isAlphanum || ";/?:@&=+$,-_.!~*'()#".toList.contains c

/-- A target with every other character written as its bytes; bytes that are written already
    stay. -/
def percentFrom : Chars → Chars
  | [] => []
  | c :: rest =>
    let written := c == '%' && (match rest with
      | a :: b :: _ => (hexValue? a).isSome && (hexValue? b).isSome
      | _ => false)
    if written || isPlainInAddress c then c :: percentFrom rest
    else (String.singleton c).toUTF8.toList.flatMap percent ++ percentFrom rest

def addressOf (target : Chars) : Chars := percentFrom (Text.strip Text.isBlank target)

def writtenBytes : Chars → List UInt8
  | '%' :: a :: b :: rest =>
    match hexValue? a, hexValue? b with
    | some a, some b => (a * 16 + b).toUInt8 :: writtenBytes rest
    | _, _ => []
  | _ => []

/-- Bytes as they are shown: characters where they are text, except for the signs that divide an
    address, and replacement characters elsewhere. -/
def shownBytes : Nat → List UInt8 → Chars
  | _, [] => []
  | 0, _ => []
  | n + 1, b :: rest =>
    let size := if b < 0x80 then 1 else if b &&& 0xE0 == 0xC0 then 2
      else if b &&& 0xF0 == 0xE0 then 3 else if b &&& 0xF8 == 0xF0 then 4 else 0
    let tail := rest.take (size - 1)
    if b < 0x80 then
      let c := Char.ofNat b.toNat
      (if ";/?:@&=+$,#%".toList.contains c then percent b else [c]) ++ shownBytes n rest
    else if size == 0 || tail.length < size - 1 || tail.any fun t => t &&& 0xC0 != 0x80 then
      '�' :: shownBytes n rest
    else
      let shown := match String.fromUTF8? (ByteArray.mk (b :: tail).toArray) with
        | some s => s.toList
        | none => List.replicate size '�'
      shown ++ shownBytes n (rest.drop (size - 1))

def readableFrom : Nat → Chars → Chars
  | _, [] => []
  | skip + 1, _ :: cs => readableFrom skip cs
  | 0, c :: cs =>
    match writtenBytes (c :: cs) with
    | [] => c :: readableFrom 0 cs
    | bytes => shownBytes bytes.length bytes ++ readableFrom (3 * bytes.length - 1) cs

def readable (address : Chars) : Chars := readableFrom 0 (Text.strip Text.isBlank address)

def labelKey (label : Chars) : String :=
  Text.upper (Text.lower (Text.join " " (Text.words (String.ofList label))))

end Huntbook.Markdown
