import Huntbook.Store.Table

/-!
# Expressions and queries

What a statement calculates: expressions over the cells of a row, and queries, which stand inside
expressions and read tables.
-/

namespace Huntbook.Store

inductive Unary
  | not | flip | minus | plus | isNull | notNull

inductive Binary
  | or
  | and
  | eq
  | ne
  | less
  | lessEq
  | more
  | moreEq
  | is
  | isNot
  | bitAnd
  | bitOr
  | shiftLeft
  | shiftRight
  | add
  | sub
  | mul
  | div
  | rem
  | concat
  deriving DecidableEq

inductive ClockPart
  | date | time | stamp

inductive NameStyle
  | plain | quoted | doubtful

mutual

/-- An expression in a statement. -/
inductive Expr
  | cell (c : Cell)
  | whole (n : Nat)
  | slot (n : Nat)
  | clock (part : ClockPart)
  | column (path : Texts) (style : NameStyle)
  | unary (op : Unary) (e : Expr)
  | binary (op : Binary) (a b : Expr)
  | between (e low high : Expr)
  | among (e : Expr) (items : List Expr)
  | amongRows (e : Expr) (q : Query)
  | cast (e : Expr) (type : String)
  | collate (e : Expr) (order : String)
  | choice (operand : Option Expr) (branches : List (Expr × Expr)) (otherwise : Option Expr)
  /-- A function, how its name is written, its arguments, whether only different ones count, and
      whether a star stands for the arguments. -/
  | call (name : String) (args : List Expr) (distinct star : Bool)
  | row (items : List Expr)
  | query (q : Query)
  | found (q : Query)

inductive Query
  | select (outputs : List Output) (sources : List Source) (condition : Option Expr)
  /-- A query in an order, of which falling ones are marked, and a part of its rows. -/
  | ordered (q : Query) (order : List (Expr × Bool)) (limit offset : Option Expr)

/-- What a query gives of each row. -/
inductive Output
  | all
  | one (e : Expr) (label : Option String)

/-- What a query reads: a table, its other name, whether rows without a partner stay, and when two
    rows are partners. -/
inductive Source
  | table (name : String) (label : Option String) (outer : Bool) (on : Option Expr)

end

instance : Inhabited Expr := ⟨.whole 0⟩

instance : Inhabited Query := ⟨.select [] [] none⟩

namespace Expr

def apply (name : String) (args : List Expr) : Expr := .call name args false false

/-- An expression with a minus before it. The least whole number that a cell can hold is written
    as a minus before a number that is too large. -/
def minus : Expr → Expr
  | .whole n => if n == leastInt.natAbs then .cell (.int leastInt) else .unary .minus (.whole n)
  | e => .unary .minus e

end Expr

/-! ## Pieces of statements

A statement is a sequence of words, names in quotes, texts, numbers, bytes, places for values and
signs, with blanks and comments between them. -/

/-- A word or sign of a statement, most with the text they are written as. -/
inductive Token
  | word (s : String)
  | name (s raw : String)
  | text (s raw : String)
  | whole (raw : String)
  | real (raw : String)
  | bytes (data : List UInt8) (raw : String)
  | slot (raw : String)
  | sign (raw : String)
  | bad (raw : String)

namespace Token

def raw : Token → String
  | .word s => s
  | .name _ raw => raw
  | .text _ raw => raw
  | .whole raw => raw
  | .real raw => raw
  | .bytes _ raw => raw
  | .slot raw => raw
  | .sign raw => raw
  | .bad raw => raw

def startsGap (c : Char) : Bool :=
  c == ' ' || c == '\t' || c == '\n' || c == '\x0c' || c == '\r'

def startsWord (c : Char) : Bool := c.isAlpha || c == '_' || c.toNat ≥ 128

def inWord (c : Char) : Bool := startsWord c || c.isDigit || c == '$'

def isHex (c : Char) : Bool := c.isDigit || ('a' ≤ c.toLower && c.toLower ≤ 'f')

def hexValue (c : Char) : Nat :=
  if c.isDigit then c.toNat - '0'.toNat else c.toLower.toNat - 'a'.toNat + 10

def quoted (quote : Char) : Chars → Option (Chars × Chars)
  | [] => none
  | c :: rest =>
    if c == quote then
      match rest with
      | d :: rest' =>
        if d == quote then (quoted quote rest').map fun (cs, after) => (quote :: cs, after)
        else some ([], rest)
      | [] => some ([], [])
    else (quoted quote rest).map fun (cs, after) => (c :: cs, after)

def afterComment : Chars → Chars
  | '*' :: '/' :: rest => rest
  | _ :: rest => afterComment rest
  | [] => []

def longSigns : Texts := ["->>", "->", "==", "<>", "<=", ">=", "!=", "||", "<<", ">>"]

def numberLength (cs : Chars) : Nat × Bool :=
  let hex := match cs with
    | '0' :: x :: d :: rest =>
      if (x == 'x' || x == 'X') && isHex d then some ((d :: rest).takeWhile isHex).length else none
    | _ => none
  match hex with
  | some n => (n + 2, false)
  | none =>
    let digits (cs : Chars) : Nat := (cs.takeWhile Char.isDigit).length
    let whole := digits cs
    let fraction := match cs.drop whole with
      | '.' :: rest => digits rest + 1
      | _ => 0
    let n := whole + fraction
    let exponent := match cs.drop n with
      | e :: rest =>
        if e != 'e' && e != 'E' then 0
        else match rest with
          | d :: rest' =>
            if d.isDigit then digits rest + 1
            else if (d == '+' || d == '-') && rest'.head?.any Char.isDigit then digits rest' + 2
            else 0
          | [] => 0
      | [] => 0
    (n + exponent, fraction > 0 || exponent > 0)

/-- How many characters belong to the name of a place, and whether it is one; the character before
    it is left out, and `named` tells whether the name has started. -/
def slotLength (named : Bool) : Chars → Nat × Bool
  | [] => (0, named)
  | ':' :: ':' :: rest =>
    let (n, ok) := slotLength named rest
    (n + 2, ok)
  | c :: rest =>
    if inWord c then
      let (n, ok) := slotLength true rest
      (n + 1, ok)
    else if c == '(' && named then
      let inside := rest.takeWhile fun d => !isGap d && d != ')'
      if (rest.drop inside.length).head? == some ')' then (inside.length + 2, true)
      else (inside.length + 1, false)
    else (0, named)

def bytesOf : Chars → List UInt8
  | a :: b :: rest => (hexValue a * 16 + hexValue b).toUInt8 :: bytesOf rest
  | _ => []

def cut (n : Nat) (cs : Chars) (f : String → Token) : Option Token × Chars :=
  (some (f (String.ofList (cs.take n))), cs.drop n)

def bytesPiece (all rest : Chars) : Option Token × Chars :=
  let digits := rest.takeWhile isHex
  let after := rest.drop digits.length
  if after.head? == some '\'' && digits.length % 2 == 0 then
    cut (digits.length + 3) all (.bytes (bytesOf digits))
  else
    let skipped := (after.takeWhile (· != '\'')).length
    cut (digits.length + skipped + 3) all .bad

def first (c : Char) (rest : Chars) : Option Token × Chars :=
  let all := c :: rest
  if startsGap c then (none, rest.dropWhile isGap)
  else if c == '-' && rest.head? == some '-' then (none, rest.dropWhile (· != '\n'))
  else if c == '/' && rest.head? == some '*' && rest.length > 1 then (none, afterComment (rest.drop 1))
  else if c == '\x60' || c == '"' || c == '\'' then
    match quoted c rest with
    | none => (some (.bad (String.ofList all)), [])
    | some (cs, after) =>
      let s := String.ofList cs
      cut (all.length - after.length) all (if c == '\'' then .text s else .name s)
  else if c == '[' then
    let inside := rest.takeWhile (· != ']')
    if inside.length < rest.length then
      cut (inside.length + 2) all (.name (String.ofList inside))
    else (some (.bad (String.ofList all)), [])
  else if (c == 'x' || c == 'X') && rest.head? == some '\'' then bytesPiece all (rest.drop 1)
  else if startsWord c then cut (all.takeWhile inWord).length all .word
  else if c.isDigit || (c == '.' && rest.head?.any Char.isDigit) then
    let (n, isReal) := numberLength all
    let tail := ((all.drop n).takeWhile inWord).length
    if tail > 0 then cut (n + tail) all .bad else cut n all (if isReal then .real else .whole)
  else if c == '?' then cut ((rest.takeWhile Char.isDigit).length + 1) all .slot
  else if c == '$' || c == '@' || c == '#' || c == ':' then
    let (n, ok) := slotLength false rest
    cut (n + 1) all (if ok then .slot else .bad)
  else if "=<>!|+-*/%&~(),.;".toList.contains c then
    match longSigns.find? fun s => s.toList.isPrefixOf all with
    | some s => (some (.sign s), all.drop s.length)
    | none => if c == '!' then (some (.bad "!"), rest) else (some (.sign c.toString), rest)
  else (some (.bad c.toString), rest)

def piecesFrom : Nat → Chars → List Token
  | _, [] => []
  | 0, _ => []
  | n + 1, c :: rest =>
    let (piece, rest) := first c rest
    piece.toList ++ piecesFrom n rest

def ofText (s : String) : List Token := piecesFrom s.length s.toList

def reserved : Texts :=
  ["add", "all", "alter", "and", "as", "autoincrement", "between", "case", "check", "collate",
   "commit", "constraint", "create", "default", "deferrable", "delete", "distinct", "drop",
   "else", "escape", "except", "exists", "foreign", "from", "group", "having", "in", "index",
   "insert", "intersect", "into", "is", "isnull", "join", "limit", "not", "nothing", "notnull",
   "null", "on", "or", "order", "primary", "references", "returning", "select", "set", "table",
   "then", "to", "transaction", "union", "unique", "update", "using", "values", "when", "where"]

def joining : Texts := ["cross", "full", "inner", "left", "natural", "outer", "right"]

def isWord (t : Token) (w : String) : Bool :=
  match t with
  | .word s => s.toLower == w
  | _ => false

def id? : Token → Option String
  | .word s => if reserved.contains s.toLower || joining.contains s.toLower then none else some s
  | .name s _ => some s
  | _ => none

def name? : Token → Option String
  | .word s => if reserved.contains s.toLower then none else some s
  | .name s _ => some s
  | .text s _ => some s
  | _ => none

end Token

end Huntbook.Store
