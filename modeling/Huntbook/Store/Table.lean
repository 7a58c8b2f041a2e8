import Huntbook.Json.Reader
import Huntbook.Store.Error
import Huntbook.Store.Number

/-!
# Tables

A table keeps its rows in the order of their keys. A new row gets a key above every key that was
ever given out, so the key of a deleted row never comes back.
-/

namespace Huntbook.Store

/-! ## Cells

What a column of a table holds. A column leans towards a kind of cell: a text column turns the
numbers put into it into texts, a number column turns texts that look like numbers into numbers,
and both keep what they cannot turn. -/

/-- What a table holds in a column. -/
inductive Cell
  | null
  | int (n : Int)
  | real (x : Float)
  | text (s : String)
  | blob (data : List UInt8)
  deriving Inhabited

/-- What a column would like its cells to be. -/
inductive Leaning
  | text | number
  deriving DecidableEq

namespace Cell

def ofValue (number : Nat) (v : Value) : Except Error Cell :=
  match v with
  | .null => .ok .null
  | .bool b => .ok (.int (if b then 1 else 0))
  | .int n => if leastInt ≤ n && n ≤ greatestInt then .ok (.int n) else .error .tooLarge
  | .float x => .ok (if x.isNaN then .null else .real x)
  | .text s => if Text.holdsHalf s then .error (.unencodable s) else .ok (.text s)
  | .bytes data => .ok (.blob data)
  | .date d => .ok (.text d.text)
  | .moment t => .ok (.text (t.textWith " "))
  | v => .error (.unstorable number v.kind.name)

def ofValues (values : List Value) : Except Error (List Cell) :=
  values.zipIdx.mapM fun (v, i) => ofValue (i + 1) v

def toValue : Cell → Value
  | .null => .null
  | .int n => .int n
  | .real x => .float x
  | .text s => .text s
  | .blob data => .bytes data

def isNull : Cell → Bool
  | .null => true
  | _ => false

def wholeOr (x : Float) : Cell :=
  match Decimal.whole? x with
  | some n => if leastInt < n && n < greatestInt then .int n else .real x
  | none => .real x

def number? (s : String) : Option Cell :=
  let found := scan s.toList
  match found.shape with
  | .whole =>
    let w := wholeStart s.toList
    some (if w.fits then .int w.value else wholeOr found.value)
  | .real => some (wholeOr found.value)
  | _ => none

def toNumber : Cell → Cell
  | .text s => (number? s).getD (.text s)
  | .real x => wholeOr x
  | c => c

def toText : Cell → Cell
  | .int n => .text (toString n)
  | .real x => .text (realText x)
  | c => c

def whole? (c : Cell) : Option Int :=
  match c.toNumber with
  | .int n => some n
  | _ => none

def less : Cell → Cell → Bool
  | .null, .null => false
  | .null, _ => true
  | _, .null => false
  | .int a, .int b => a < b
  | .int a, .real b => Decimal.intLess a b
  | .real a, .int b => Decimal.lessInt a b
  | .real a, .real b => a < b
  | .int _, _ | .real _, _ => true
  | _, .int _ | _, .real _ => false
  | .text a, .text b => a < b
  | .text _, .blob _ => true
  | .blob _, .text _ => false
  | .blob a, .blob b => a.map UInt8.toNat < b.map UInt8.toNat

def equals (a b : Cell) : Bool := !a.isNull && !b.isNull && !a.less b && !b.less a

end Cell

def Leaning.apply : Leaning → Cell → Cell
  | .text, c => c.toText
  | .number, c => c.toNumber

/-- What a column holds if nothing is given. -/
inductive Fallback
  | cell (c : Cell)
  | now

structure Column where
  name : String
  leaning : Leaning := .text
  required : Bool := false
  unique : Bool := false
  fallback : Fallback := .cell .null

/-- A row, with its key. -/
structure Row where
  id : Int
  cells : List (String × Cell)

def Row.get (r : Row) (column : String) : Cell :=
  if column == "id" then .int r.id else (r.cells.lookup column).getD .null

def Row.value (r : Row) (column : String) : Value := (r.get column).toValue

def Row.set (r : Row) (column : String) (c : Cell) : Row :=
  { r with cells := r.cells.map fun e => if e.1 == column then (column, c) else e }

/-- A table, and the last key that it has given away. -/
structure Table where
  name : String
  columns : List Column
  rows : List Row := []
  last : Int := 0

namespace Table

variable (t : Table)

def withKey (key : Cell) : List Row :=
  match key.whole? with
  | some id => t.rows.filter (·.id == id)
  | none => []

def place (r : Row) : List Row → List Row
  | [] => [r]
  | s :: rest => if r.id < s.id then r :: s :: rest else s :: place r rest

/-- Whether a row keeps the rules of the table beside other rows: what must not be null is not,
    and what must differ differs. -/
def check (r : Row) (others : List Row) : Except Error Unit :=
  match t.columns.find? (fun c => c.required && (r.get c.name).isNull) with
  | some c => .error (.nullColumn t.name c.name)
  | none =>
    if others.any (·.id == r.id) then .error (.notUnique t.name "id")
    else match t.columns.find? (fun c =>
        c.unique && others.any fun s => (s.get c.name).equals (r.get c.name)) with
      | some c => .error (.notUnique t.name c.name)
      | none => .ok ()

def nextKey : Int := t.rows.foldl (fun n r => max n r.id) t.last + 1

def insert (now : Cell) (cells : List (String × Cell)) : Except Error (Int × Table) := do
  let id := t.nextKey
  if id > greatestInt then throw .full
  let row : Row := ⟨id, t.columns.map fun c =>
    (c.name, c.leaning.apply ((cells.lookup c.name).getD (match c.fallback with
      | .cell c => c
      | .now => now)))⟩
  t.check row t.rows
  return (id, { t with rows := place row t.rows, last := id })

def replace (id : Int) (r : Row) : Except Error Table := do
  let others := t.rows.filter (·.id != id)
  t.check r others
  return { t with rows := place r others }

def erase (p : Row → Bool) : Nat × Table :=
  ((t.rows.filter p).length, { t with rows := t.rows.filter (!p ·) })

def column? (name : String) : Option (String × Leaning) :=
  let wanted := name.toLower
  if ["id", "rowid", "oid", "_rowid_"].contains wanted then some ("id", .number)
  else (t.columns.find? (·.name == wanted)).map fun c => (c.name, c.leaning)

end Table

def rising (column : String) (rows : List Row) : List Row :=
  rows.mergeSort fun a b => !(b.get column).less (a.get column)

def falling (column : String) (rows : List Row) : List Row :=
  rows.mergeSort fun a b => !(a.get column).less (b.get column)

end Huntbook.Store
