import Huntbook.Store.Statement.Calculation
import Huntbook.Store.Instant

/-!
# Functions of expressions

The functions that an expression can call, by their names.
-/

namespace Huntbook.Store.Wildcard

/-! ## Wildcards

Two kinds of patterns for texts. In one, `%` stands for any text and `_` for any character, and
capital letters count as small ones. -/

def tails {α : Type} : List α → List (List α)
  | [] => [[]]
  | a :: rest => (a :: rest) :: tails rest

/-- A piece of a pattern. -/
inductive Piece
  | any
  | one
  | char (c : Char)
  | never

def Piece.fits (fold : Bool) (p : Piece) (c : Char) : Bool :=
  match p with
  | .one => true
  | .char d => c == d || (fold && c.toLower == d.toLower)
  | _ => false

def fits (fold : Bool) : List Piece → Chars → Bool
  | [], cs => cs.isEmpty
  | .any :: rest, cs => (tails cs).any fun cs => fits fold rest cs
  | p :: rest, c :: cs => p.fits fold c && fits fold rest cs
  | _ :: _, [] => false

def likePieces (escape : Option Char) : Chars → List Piece
  | [] => []
  | c :: rest =>
    if some c == escape then
      match rest with
      | d :: rest => .char d :: likePieces escape rest
      | [] => [.never]
    else if c == '%' then .any :: likePieces escape rest
    else if c == '_' then .one :: likePieces escape rest
    else .char c :: likePieces escape rest

def like (escape : Option Char) (pattern cs : Chars) : Bool :=
  fits true (likePieces escape pattern) cs

def globPieces (pattern : Chars) : List Piece :=
  pattern.map fun c => if c == '*' then .any else if c == '?' then .one else .char c

def glob (pattern cs : Chars) : Bool := fits false (globPieces pattern) cs

end Huntbook.Store.Wildcard

namespace Huntbook.Store.Function

inductive Kind
  | single | group
  deriving DecidableEq

/-- What is known of a function with so many arguments. -/
inductive Found
  | known (kind : Kind)
  | wrongCount
  | unknown
  deriving DecidableEq

def singles : List (String × Nat × Option Nat) :=
  [("abs", 1, some 1), ("coalesce", 2, none), ("date", 0, none), ("datetime", 0, none),
   ("glob", 2, some 2), ("hex", 1, some 1), ("ifnull", 2, some 2), ("iif", 3, some 3),
   ("instr", 2, some 2), ("length", 1, some 1), ("like", 2, some 3), ("lower", 1, some 1),
   ("ltrim", 1, some 2), ("max", 2, none), ("min", 2, none), ("nullif", 2, some 2),
   ("replace", 3, some 3), ("rtrim", 1, some 2), ("substr", 2, some 3), ("substring", 2, some 3),
   ("time", 0, none), ("trim", 1, some 2), ("typeof", 1, some 1), ("upper", 1, some 1)]

def groupings : List (String × Nat × Nat) := [("count", 0, 1), ("max", 1, 1), ("min", 1, 1)]

def find (name : String) (count : Nat) : Found :=
  let fits (least most : Nat) : Bool := least ≤ count && count ≤ most
  let one := singles.lookup name
  let grouped := groupings.lookup name
  if one.any fun (least, most) => least ≤ count && most.all (count ≤ ·) then .known .single
  else if grouped.any fun (least, most) => fits least most then .known .group
  else if one.isSome || grouped.isSome then .wrongCount
  else .unknown

/-! ### Functions of single rows -/

structure Surroundings where
  now : Moment
  order : Sorting := .plain

def onText (f : String → Cell) (c : Cell) : Cell :=
  match c.textValue? with
  | some s => f s
  | none => .null

def plainChars (s : String) : Chars := s.toList.takeWhile (· != '\x00')

def length (c : Cell) : Cell :=
  match c with
  | .null => .null
  | .text s => .int (plainChars s).length
  | c => .int c.bytesValue.length

def hexText (data : List UInt8) : String :=
  String.ofList (data.flatMap fun b =>
    [Nat.digitChar (b.toNat / 16), Nat.digitChar (b.toNat % 16)].map Char.toUpper)

def position {α : Type} [BEq α] (needle : List α) (all : List α) : Nat :=
  match (Wildcard.tails all).findIdx? fun end? => needle.isPrefixOf end? with
  | some i => i + 1
  | none => 0

def narrow (n : Int) : Int := Int.bmod n 4294967296

/-- A part of a list: where it starts, counted from one, or from the end if the number is negative,
    and how long it is; a negative length counts to the left. -/
def slice {α : Type} (all : List α) (start : Int) (count : Option Int) : List α :=
  let len : Int := all.length
  let (p2, leftward) : Int × Bool := match count with
    | some n => if n < 0 then (-n, true) else (n, false)
    | none => (1000000000, false)
  let (p1, p2) : Int × Int :=
    if start < 0 then
      let p1 := start + len
      if p1 < 0 then (0, max 0 (p2 + p1)) else (p1, p2)
    else if start > 0 then (start - 1, p2)
    else (0, if p2 > 0 then p2 - 1 else p2)
  let (p1, p2) : Int × Int :=
    if leftward then
      let p := p1 - p2
      if p < 0 then (0, p2 + p) else (p, p2)
    else (p1, p2)
  (all.drop p1.toNat).take p2.toNat

def substr (c start : Cell) (count : Option Cell) : Cell :=
  if start.isNull || count.any Cell.isNull then .null
  else
    let p1 := narrow start.intValue
    let p2 := count.map fun c => narrow c.intValue
    match c with
    | .blob data => .blob (slice data p1 p2)
    | c => onText (fun s => .text (String.ofList (slice (plainChars s) p1 p2))) c

def trimmed (left right : Bool) (c : Cell) (set : Option Cell) : Cell :=
  match c.textValue?, (set.getD (.text " ")).textValue? with
  | some s, some set =>
    let cs := s.toList
    let cs := if left then cs.dropWhile set.toList.contains else cs
    .text (String.ofList (if right then Text.dropEndWhile set.toList.contains cs else cs))
  | _, _ => .null

def like (pattern c : Cell) (escape : Option Cell) : Except Error Cell := do
  match pattern, c with
  | .blob _, _ | _, .blob _ => return Cell.ofBool false
  | _, _ => pure ()
  let e ← match escape with
    | none => pure none
    | some e =>
      match e.textValue? with
      | none => return .null
      | some s =>
        match s.toList with
        | [c] => pure (some c)
        | _ => throw .badEscape
  match pattern.textValue?, c.textValue? with
  | some p, some s => return Cell.ofBool (Wildcard.like e (plainChars p) (plainChars s))
  | _, _ => return .null

def instant? (now : Moment) (args : List Cell) : Option Instant := do
  if let c :: _ := args then
    if (← c.textValue?).toLower != "now" then none
  (Instant.ofMoment now).resolve? (← (args.drop 1).mapM Cell.textValue?)

def ofInstant (now : Moment) (args : List Cell) (f : Instant → Cell) : Cell :=
  match instant? now args with
  | some i => f i
  | none => .null

def best (better : Cell → Cell → Bool) : List Cell → Cell
  | [] => .null
  | c :: rest =>
    if (c :: rest).any Cell.isNull then .null
    else rest.foldl (fun a b => if better a b then b else a) c

def apply (s : Surroundings) (name : String) (args : List Cell) : Except Error Cell :=
  match name, args with
  | "abs", [c] =>
    match c with
    | .null => .ok .null
    | .int n => if n == leastInt then .error .overflow else .ok (.int n.natAbs)
    | c => .ok (.real (let x := c.realValue; if x < 0 then -x else x))
  | "coalesce", args => .ok ((args.find? (!·.isNull)).getD .null)
  | "ifnull", args => .ok ((args.find? (!·.isNull)).getD .null)
  | "iif", [c, a, b] => .ok (if c.truth? == some true then a else b)
  | "glob", [p, c] =>
    match p, c with
    | .blob _, _ | _, .blob _ => .ok (Cell.ofBool false)
    | p, c =>
      match p.textValue?, c.textValue? with
      | some p, some s => .ok (Cell.ofBool (Wildcard.glob (plainChars p) (plainChars s)))
      | _, _ => .ok .null
  | "like", [p, c] => like p c none
  | "like", [p, c, e] => like p c (some e)
  | "hex", [c] => .ok (.text (hexText c.bytesValue))
  | "instr", [a, b] =>
    match a, b with
    | .null, _ | _, .null => .ok .null
    | .blob a, .blob b => .ok (.int (position b a))
    | a, b => .ok (.int (position (b.textValue?.getD "").toList (a.textValue?.getD "").toList))
  | "length", [c] => .ok (length c)
  | "lower", [c] => .ok (onText (fun s => .text s.toLower) c)
  | "upper", [c] => .ok (onText (fun s => .text s.toUpper) c)
  | "ltrim", c :: rest => .ok (trimmed true false c rest.head?)
  | "rtrim", c :: rest => .ok (trimmed false true c rest.head?)
  | "trim", c :: rest => .ok (trimmed true true c rest.head?)
  | "max", args => .ok (best (fun a b => s.order.compare a b == .lt) args)
  | "min", args => .ok (best (fun a b => s.order.compare a b != .lt) args)
  | "nullif", [a, b] => .ok (if s.order.compare a b == .eq then .null else a)
  | "replace", [c, old, new] =>
    match c.textValue?, old.textValue?, new.textValue? with
    | some t, some o, new =>
      if (plainChars o).isEmpty then .ok c
      else match new with
        | some n => .ok (.text (Text.replace t o n))
        | none => .ok .null
    | _, _, _ => .ok .null
  | "substr", c :: start :: rest => .ok (substr c start rest.head?)
  | "substring", c :: start :: rest => .ok (substr c start rest.head?)
  | "typeof", [c] => .ok (.text c.kindName)
  | "date", args => .ok (ofInstant s.now args fun i => .text i.dateText)
  | "time", args => .ok (ofInstant s.now args fun i => .text i.timeText)
  | "datetime", args => .ok (ofInstant s.now args fun i => .text i.stampText)
  | _, _ => .ok .null

/-! ### Functions of groups of rows -/

def gather (order : Sorting) (name : String) (rows : List (List Cell)) : Cell :=
  let cells := (rows.filterMap List.head?).filter (!·.isNull)
  match name with
  | "count" => .int (if rows.any (·.isEmpty) then rows.length else cells.length)
  | "max" => best (fun a b => order.compare a b == .lt) cells
  | _ => best (fun a b => order.compare a b == .gt) cells

end Huntbook.Store.Function
