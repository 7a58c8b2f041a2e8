import Huntbook.Store.Statement.Expr
import Huntbook.Text.Pieces

/-!
# Calculations with cells

The operators of expressions on cells. Null is unknown: what depends on it is null as well.
-/

namespace Huntbook.Store

namespace Cell

def numberChars : Cell → Chars
  | .text s => s.toList
  | .blob data => data.map fun b => Char.ofNat b.toNat
  | _ => []

def realOfInt (n : Int) : Float :=
  let x := Decimal.nearestDouble n.natAbs 0
  if n < 0 then -x else x

def number (c : Cell) : Cell :=
  match c with
  | .text _ | .blob _ =>
    let cs := c.numberChars
    let found := scan cs
    let w := wholeStart cs
    match found.shape with
    | .none | .whole => if w.fits then .int w.value else .real found.value
    | _ => .real found.value
  | c => c

def intValue (c : Cell) : Int :=
  match c with
  | .null => 0
  | .int n => n
  | .real x => wholePart x
  | c => (wholeStart c.numberChars).value

def realValue (c : Cell) : Float :=
  match c with
  | .null => 0.0
  | .int n => realOfInt n
  | .real x => x
  | c => (scan c.numberChars).value

def textOfBytes (data : List UInt8) : String :=
  match String.fromUTF8? ⟨data.toArray⟩ with
  | some s => s
  | none => String.ofList (data.map fun b => if b < 128 then Char.ofNat b.toNat else '�')

def textValue? : Cell → Option String
  | .null => none
  | .int n => some (toString n)
  | .real x => some (realText x)
  | .text s => some s
  | .blob data => some (textOfBytes data)

def bytesValue (c : Cell) : List UInt8 :=
  match c with
  | .blob data => data
  | c => ((c.textValue?.getD "").toUTF8).toList

def truth? (c : Cell) : Option Bool :=
  match c with
  | .null => none
  | .int n => some (n != 0)
  | c => some (c.realValue != 0.0)

def ofBool (b : Bool) : Cell := .int (if b then 1 else 0)

def ofTruth? : Option Bool → Cell
  | some b => ofBool b
  | none => .null

def ofReal (x : Float) : Cell := if x.isNaN then .null else .real x

def ofWhole (n : Nat) : Cell :=
  if (n : Int) ≤ greatestInt then .int n else .real (scan (Nat.toDigits 10 n)).value

def kindName : Cell → String
  | .null => "null"
  | .int _ => "integer"
  | .real _ => "real"
  | .text _ => "text"
  | .blob _ => "blob"

end Cell

/-! ### Operators -/

def fitsCell (n : Int) : Bool := leastInt ≤ n && n ≤ greatestInt

def wrapped (n : Int) : Int := Int.bmod n 18446744073709551616

def bitsOf (n : Int) : Nat := (n % 18446744073709551616).toNat

def Unary.apply (op : Unary) (c : Cell) : Cell :=
  match op with
  | .not => Cell.ofTruth? (c.truth?.map (!·))
  | .flip => if c.isNull then .null else .int (-c.intValue - 1)
  | .minus =>
    match c.number with
    | .int n => if fitsCell (-n) then .int (-n) else .real (-(Cell.realOfInt n))
    | .real x => .real (-x)
    | c => c
  | .plus => c
  | .isNull => Cell.ofBool c.isNull
  | .notNull => Cell.ofBool !c.isNull

def shifted (n count : Int) : Int :=
  if count ≥ 64 then 0
  else if count ≥ 0 then wrapped (n * Nat.pow 2 count.toNat)
  else if count ≤ -64 then if n < 0 then -1 else 0
  else Int.fdiv n (Nat.pow 2 (-count).toNat)

def Binary.onReals (op : Binary) (a b : Cell) : Cell :=
  let x := a.realValue
  let y := b.realValue
  match op with
  | .add => Cell.ofReal (x + y)
  | .sub => Cell.ofReal (x - y)
  | .mul => Cell.ofReal (x * y)
  | .div => if y == 0.0 then .null else Cell.ofReal (x / y)
  | _ =>
    let m := b.intValue
    if m == 0 then .null
    else if m == -1 then .real 0.0
    else .real (Cell.realOfInt (Int.tmod a.intValue m))

/-- A sum, difference, product, quotient or remainder. What is beyond the range of whole numbers is
    calculated in doubles. -/
def Binary.arithmetic (op : Binary) (a b : Cell) : Cell :=
  match a.number, b.number with
  | .null, _ | _, .null => .null
  | .int m, .int n =>
    let whole (k : Int) : Cell := if fitsCell k then .int k else op.onReals a b
    match op with
    | .add => whole (m + n)
    | .sub => whole (m - n)
    | .mul => whole (m * n)
    | .div => if n == 0 then .null else whole (Int.tdiv m n)
    | _ => if n == 0 then .null else if n == -1 then .int 0 else .int (Int.tmod m n)
  | _, _ => op.onReals a b

def onBits (f : Int → Int → Int) (a b : Cell) : Cell :=
  if a.isNull || b.isNull then .null else .int (f a.intValue b.intValue)

def concatenated (a b : Cell) : Cell :=
  match a, b with
  | .null, _ | _, .null => .null
  | a, b => .text (Cell.textOfBytes (a.bytesValue ++ b.bytesValue))

def Binary.calculate (op : Binary) (a b : Cell) : Cell :=
  match op with
  | .add | .sub | .mul | .div | .rem => op.arithmetic a b
  | .bitAnd => onBits (fun m n => wrapped (bitsOf m &&& bitsOf n : Nat)) a b
  | .bitOr => onBits (fun m n => wrapped (bitsOf m ||| bitsOf n : Nat)) a b
  | .shiftLeft => onBits shifted a b
  | .shiftRight => onBits (fun m n => shifted m (-n)) a b
  | .concat => concatenated a b
  | _ => .null

def bothTrue : Option Bool → Option Bool → Option Bool
  | some false, _ | _, some false => some false
  | some true, some true => some true
  | _, _ => none

def eitherTrue : Option Bool → Option Bool → Option Bool
  | some true, _ | _, some true => some true
  | some false, some false => some false
  | _, _ => none

/-! ### Comparison -/

/-- How texts are compared. -/
inductive Sorting
  | plain | folded | trimmed

def Sorting.ofName? (s : String) : Option Sorting :=
  match s.toLower with
  | "binary" => some .plain
  | "nocase" => some .folded
  | "rtrim" => some .trimmed
  | _ => none

def Sorting.key (order : Sorting) (c : Cell) : Cell :=
  match order, c with
  | .folded, .text s => .text s.toLower
  | .trimmed, .text s => .text (String.ofList (Text.dropEndWhile (· == ' ') s.toList))
  | _, c => c

def Sorting.compare (order : Sorting) (a b : Cell) : Ordering :=
  let a := order.key a
  let b := order.key b
  if a.less b then .lt else if b.less a then .gt else .eq

/-- What an expression would like to be compared as. -/
inductive Affinity
  | none | blob | text | number
  deriving DecidableEq

def Affinity.meet : Affinity → Affinity → Affinity
  | .none, b => b
  | a, .none => a
  | a, b => if a == .number || b == .number then .number else .blob

def Affinity.apply (a : Affinity) (c : Cell) : Cell :=
  match a, c with
  | .number, .text s => (Cell.number? s).getD (.text s)
  | .text, c => c.toText
  | _, c => c

structure Comparison where
  affinity : Affinity := .none
  order : Sorting := .plain

def Comparison.compare? (how : Comparison) (a b : Cell) : Option Ordering :=
  if a.isNull || b.isNull then none
  else some (how.order.compare (how.affinity.apply a) (how.affinity.apply b))

def Comparison.same (how : Comparison) (a b : Cell) : Bool :=
  how.order.compare (how.affinity.apply a) (how.affinity.apply b) == .eq

def Binary.holds (op : Binary) (o : Ordering) : Bool :=
  match op with
  | .eq | .is => o == .eq
  | .ne | .isNot => o != .eq
  | .less => o == .lt
  | .lessEq => o != .gt
  | .more => o == .gt
  | .moreEq => o != .lt
  | _ => false

def Binary.compareAll (op : Binary) : List (Comparison × Cell × Cell) → Option Bool
  | [] => some (op.holds .eq)
  | (how, a, b) :: rest =>
    match op with
    | .eq => bothTrue ((how.compare? a b).map (· == .eq)) (compareAll .eq rest)
    | .ne => eitherTrue ((how.compare? a b).map (· != .eq)) (compareAll .ne rest)
    | .is => some (((how :: rest.map (·.1)).zip ((a, b) :: rest.map (·.2))).all fun e =>
        e.1.same e.2.1 e.2.2)
    | .isNot => some (((how :: rest.map (·.1)).zip ((a, b) :: rest.map (·.2))).any fun e =>
        !e.1.same e.2.1 e.2.2)
    | op =>
      match how.compare? a b with
      | none => none
      | some .eq => compareAll op rest
      | some o => some (op.holds o)

/-! ### Kinds of cells -/

inductive CastKind
  | integer | text | blob | real | numeric
  deriving DecidableEq

def CastKind.ofName (s : String) : CastKind :=
  let t := s.toLower
  let has (part : String) : Bool := Text.contains t part
  if has "int" then .integer
  else if has "char" || has "clob" || has "text" then .text
  else if has "blob" then .blob
  else if has "real" || has "floa" || has "doub" then .real
  else .numeric

def CastKind.affinity : CastKind → Affinity
  | .text => .text
  | .blob => .blob
  | _ => .number

def safeWhole? (x : Float) : Option Int :=
  match Decimal.whole? x with
  | some n => if -2251799813685248 ≤ n && n < 2251799813685248 then some n else none
  | none => none

def CastKind.cast (kind : CastKind) (c : Cell) : Cell :=
  match c with
  | .null => .null
  | c =>
    match kind with
    | .integer => .int c.intValue
    | .text => .text (c.textValue?.getD "")
    | .blob => .blob c.bytesValue
    | .real => .real c.realValue
    | .numeric =>
      match c with
      | .text _ | .blob _ =>
        match c.number with
        | .real x => ((safeWhole? x).map Cell.int).getD (.real x)
        | n => n
      | c => c

end Huntbook.Store
