import Huntbook.Text.Pieces

/-!
# Character references

A character that is hard to type can be referred to by a name or by its number: `&copy;`, `&#169;`
and `&#xa9;` are one character.
-/

namespace Huntbook.Markdown

def characterNames : List String :=
  ["9 Tab NewLine 22 excl QUOT,quot num dollar percnt AMP,amp apos lpar rpar ast,midast plus comma",
   "1 period sol 10 colon semi LT,lt equals GT,gt quest commat 26 lbrack,lsqb bsol rbrack,rsqb Hat",
   "UnderBar,lowbar DiacriticalGrave,grave 26 lbrace,lcub VerticalLine,verbar,vert rbrace,rcub 34",
   "NonBreakingSpace,nbsp iexcl cent pound curren yen brvbar sect Dot,DoubleDot,die,uml COPY,copy",
   "ordf laquo not shy REG,circledR,reg macr,strns deg PlusMinus,plusmn,pm sup2 sup3",
   "DiacriticalAcute,acute micro para CenterDot,centerdot,middot Cedilla,cedil sup1 ordm raquo",
   "frac14 frac12,half frac34 iquest Agrave Aacute Acirc Atilde Auml Aring,angst AElig Ccedil",
   "Egrave Eacute Ecirc Euml Igrave Iacute Icirc Iuml ETH Ntilde Ograve Oacute Ocirc Otilde Ouml",
   "times Oslash Ugrave Uacute Ucirc Uuml Yacute THORN szlig agrave aacute acirc atilde auml aring",
   "aelig ccedil egrave eacute ecirc euml igrave iacute icirc iuml eth ntilde ograve oacute ocirc",
   "otilde ouml div,divide oslash ugrave uacute ucirc uuml yacute thorn yuml 82 OElig oelig 12",
   "Scaron scaron 22 Yuml 25 fnof 307 circ 21 tilde 180 Alpha Beta Gamma Delta Epsilon Zeta Eta",
   "Theta Iota Kappa Lambda Mu Nu Xi Omicron Pi Rho 1 Sigma Tau Upsilon Phi Chi Psi Omega 7 alpha",
   "beta gamma delta epsilon zeta eta theta iota kappa lambda mu nu xi omicron pi rho sigmaf sigma",
   "tau upsilon phi chi psi omega 7 thetasym upsih 3 piv 7211 ensp emsp 5 thinsp 2 zwnj zwj lrm rlm",
   "3 ndash mdash 3 lsquo rsquo sbquo 1 ldquo rdquo bdquo 1 dagger Dagger bull 3 hellip 9 permil 1",
   "prime Prime 5 lsaquo rsaquo 3 oline 5 frasl 103 euro 100 image 6 weierp 3 real 5 trade 18",
   "alefsym 90 larr uarr rarr darr harr 32 crarr 26 lArr uArr rArr dArr hArr 43 forall 1 part exist",
   "1 empty 1 nabla isin notin 1 ni 3 prod 1 sum minus 4 lowast 2 radic 2 prop infin 1 ang 6 and or",
   "cap cup int 8 there4 7 sim 8 cong 2 asymp 23 ne equiv 2 le ge 28 sub sup nsub 1 sube supe 13",
   "oplus 1 otimes 13 perp 31 sdot 66 lceil rceil lfloor rfloor 702 loz 149 spades 2 clubs 1 hearts",
   "diams"]

def hexValue? (c : Char) : Option Nat :=
  if c.isDigit then some (c.toNat - '0'.toNat)
  else if 'a' ≤ c.toLower && c.toLower ≤ 'f' then some (c.toLower.toNat - 'a'.toNat + 10)
  else none

def numberOf (base : Nat) (digits : List Char) : Nat :=
  digits.foldl (fun n d => n * base + (hexValue? d).getD 0) 0

def codeFrom? (name : List Char) : Nat → List (List Char) → Option Nat
  | _, [] => none
  | code, word :: rest =>
    if word.all Char.isDigit then codeFrom? name (code + numberOf 10 word) rest
    else if (Text.splitList ',' word).contains name then some code
    else codeFrom? name (code + 1) rest

def named? (name : List Char) : Option (List Char) :=
  let words := characterNames.flatMap fun line => Text.splitList ' ' line.toList
  (codeFrom? name 0 words).map fun code => [Char.ofNat code]

/-- Whether a number is that of a character which a text may hold: neither half of a pair, nor
    one that is never used, nor a control character other than blanks. -/
def isReferable (n : Nat) : Bool :=
  !((0xD800 ≤ n && n ≤ 0xDFFF) || (0xFDD0 ≤ n && n ≤ 0xFDEF) || n % 0x10000 ≥ 0xFFFE
    || n ≤ 8 || n == 0x0B || (0x0E ≤ n && n ≤ 0x1F) || (0x7F ≤ n && n ≤ 0x9F) || n > 0x10FFFF)

def numbered (n : Nat) : Char := if isReferable n then Char.ofNat n else '\ufffd'

def digitsEnd? (isDigit : Char → Bool) (most : Nat) (cs : List Char) : Option (List Char) :=
  let digits := cs.takeWhile isDigit
  if digits.isEmpty || digits.length > most then none
  else match cs.drop digits.length with
    | ';' :: _ => some digits
    | _ => none

def reference? : List Char → Option (List Char × Nat)
  | '#' :: x :: cs =>
    let byTens := (digitsEnd? Char.isDigit 7 (x :: cs)).map fun ds =>
      ([numbered (numberOf 10 ds)], ds.length + 3)
    if x == 'x' || x == 'X' then
      (digitsEnd? (fun c => (hexValue? c).isSome) 6 cs).map fun ds =>
        ([numbered (numberOf 16 ds)], ds.length + 4)
    else byTens
  | cs => do
    let name ← digitsEnd? Char.isAlphanum 32 cs
    if name.length < 2 || !(name.head?.any Char.isAlpha) then none
    else do
      let found ← named? name
      return (found, name.length + 2)

end Huntbook.Markdown
