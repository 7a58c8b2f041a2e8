/-!
# Pieces of texts

Finding, replacing and splitting on a fixed text. Matches are taken from the left and do not
overlap.
-/

namespace Huntbook.Text

def dropStart? : List Char → List Char → Option (List Char)
  | [], cs => some cs
  | _ :: _, [] => none
  | w :: ws, c :: cs => if w == c then dropStart? ws cs else none

def hasInfix (needle : List Char) : List Char → Bool
  | [] => needle.isEmpty
  | c :: cs => needle.isPrefixOf (c :: cs) || hasInfix needle cs

def replaceFrom (old new : List Char) : Nat → List Char → List Char
  | _, [] => []
  | skip + 1, _ :: cs => replaceFrom old new skip cs
  | 0, c :: cs =>
    if old.isPrefixOf (c :: cs) then new ++ replaceFrom old new (old.length - 1) cs
    else c :: replaceFrom old new 0 cs

def splitList (sep : Char) : List Char → List (List Char)
  | [] => [[]]
  | c :: cs =>
    if c == sep then [] :: splitList sep cs
    else match splitList sep cs with
      | [] => [[c]]
      | piece :: pieces => (c :: piece) :: pieces

def contains (s needle : String) : Bool := hasInfix needle.toList s.toList

def startsWith (s start : String) : Bool := start.toList.isPrefixOf s.toList

def endsWith (s finish : String) : Bool := finish.toList.isSuffixOf s.toList

def replace (s old new : String) : String :=
  String.ofList (replaceFrom old.toList new.toList 0 s.toList)

def split (s : String) (sep : Char) : List String := (splitList sep s.toList).map String.ofList

def lines (s : String) : List String := split s '\n'

def join (sep : String) (pieces : List String) : String := sep.intercalate pieces

end Huntbook.Text
