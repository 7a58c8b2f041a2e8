import Huntbook.Text.Case
import Huntbook.Text.Pieces

/-!
# Finding phrases

A phrase is recognised at the start of a text by a function that gives what it read and the text
after it.
-/

namespace Huntbook.Text

abbrev Phrase (α : Type) := Option Char → Chars → Option (α × Chars)

def firstFrom? {α : Type} (phrase : Phrase α) (before : Option Char) : Chars → Option α
  | [] => (phrase before []).map (·.1)
  | c :: cs =>
    match phrase before (c :: cs) with
    | some (a, _) => some a
    | none => firstFrom? phrase (some c) cs

/-- What the phrases give that follow one another; the first `skip` characters belong to one that
    has been read. A phrase has at least one character. -/
def allFrom {α : Type} (phrase : Phrase α) : Nat → Option Char → Chars → List α
  | _, _, [] => []
  | skip + 1, _, c :: cs => allFrom phrase skip (some c) cs
  | 0, before, c :: cs =>
    match phrase before (c :: cs) with
    | some (a, rest) => a :: allFrom phrase (cs.length - rest.length) (some c) cs
    | none => allFrom phrase 0 (some c) cs

def first? {α : Type} (phrase : Phrase α) (s : String) : Option α :=
  firstFrom? phrase none s.toList

def all {α : Type} (phrase : Phrase α) (s : String) : List α := allFrom phrase 0 none s.toList

def run? (p : Char → Bool) (cs : Chars) : Option (Chars × Chars) :=
  let found := cs.takeWhile p
  if found.isEmpty then none else some (found, cs.drop found.length)

def one? (p : Char → Bool) : Chars → Option Chars
  | c :: cs => if p c then some cs else none
  | [] => none

def skipBlanks (cs : Chars) : Chars := cs.dropWhile isBlank

/-! ## Rewriting texts

Replacing every place of a text that a rule picks out. Places are taken from the left and do not
overlap; a rule sees the character before a place and the text from there on, so it can ask for
word boundaries. -/

abbrev Rule := Option Char → Chars → Option Nat

/-- Replaces the places of `rule` by what `swap` makes of them. The first `skip` characters belong
    to a place that has been replaced, and `before` is the character before the text. -/
def rewriteFrom (rule : Rule) (swap : Chars → Chars) :
    Nat → Option Char → Chars → Chars
  | _, before, [] => if (rule before []).isSome then swap [] else []
  | skip + 1, _, c :: cs => rewriteFrom rule swap skip (some c) cs
  | 0, before, c :: cs =>
    match rule before (c :: cs) with
    | none => c :: rewriteFrom rule swap 0 (some c) cs
    | some 0 => swap [] ++ c :: rewriteFrom rule swap 0 (some c) cs
    | some (n + 1) => swap (c :: cs.take n) ++ rewriteFrom rule swap n (some c) cs

def rewrite (rule : Rule) (swap : Chars → Chars) (cs : Chars) : Chars :=
  rewriteFrom rule swap 0 none cs

def lastOr (before : Option Char) (word : Chars) : Option Char := word.getLast?.or before

def wordRule (word : Chars) : Rule := fun before cs =>
  if isBoundary before cs.head? then
    match dropStart? word cs with
    | some rest => if isBoundary (lastOr before word) rest.head? then some word.length else none
    | none => none
  else none

def foldRule (word : Chars) : Rule := fun before cs =>
  if isBoundary before cs.head? then
    match dropFold? word cs with
    | some rest => if isBoundary (lastOr before word) rest.head? then some word.length else none
    | none => none
  else none

end Huntbook.Text
