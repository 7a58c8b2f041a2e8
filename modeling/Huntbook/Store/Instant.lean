import Huntbook.Calendar
import Huntbook.Store.Number
import Huntbook.Text.Pieces

/-!
# Instants

The store counts instants in milliseconds from noon of a day long ago, from which on astronomers
count days.
-/

namespace Huntbook.Store

/-- A time, counted from the start of the first Julian day. -/
structure Instant where
  millis : Int

namespace Instant

def dayMillis : Int := 86400000

def isValid (i : Instant) : Bool := 0 ≤ i.millis && i.millis ≤ 464269060799999

/-- The start of a day in the Gregorian calendar. A day beyond the end of its month is one of the
    next month. -/
def ofDate? (year month day : Int) : Option Instant :=
  if year < -4713 || year > 9999 then none
  else
    let (y, m) := if month ≤ 2 then (year - 1, month + 12) else (year, month)
    let a := y.tdiv 100
    let b := 2 - a + a.tdiv 4
    let x := (36525 * (y + 4716)).tdiv 100
    let z := (306001 * (m + 1)).tdiv 10000
    some ⟨(2 * (x + z + day + b) - 3049) * (dayMillis / 2)⟩

/-- A day and the milliseconds since it began. -/
structure Fields where
  (year month day : Int)
  clock : Nat

def fields (i : Instant) : Fields :=
  let z := (i.millis + 43200000).tdiv dayMillis
  let a := (4 * z - 7468865).tdiv 146097
  let a := z + 1 + a - a.tdiv 4
  let b := a + 1524
  let c := (20 * b - 2442).tdiv 7305
  let d := (36525 * (c % 32768)).tdiv 100
  let e := ((b - d) * 10000).tdiv 306001
  let month := if e < 14 then e - 1 else e - 13
  { year := if month > 2 then c - 4716 else c - 4715
    month
    day := b - d - (306001 * e).tdiv 10000
    clock := ((i.millis + 43200000).tmod dayMillis).toNat }

def ofMoment (t : Moment) : Instant :=
  let day := ((ofDate? t.date.year t.date.month t.date.day).getD ⟨0⟩).millis
  ⟨day + (t.hour * 3600 + t.minute * 60 + t.second : Nat) * 1000⟩

/-! ### Modifiers -/

def units : List (String × Int × Int) :=
  [("second", 464270000000000, 1), ("minute", 7737900000000, 60), ("hour", 128970000000, 3600),
   ("day", 5373485, 86400)]

def move (i : Instant) (x seconds : Float) : Instant :=
  ⟨i.millis + wholePart (x * 1000.0 * seconds + if x < 0.0 then -0.5 else 0.5)⟩

def moved? (i : Instant) (cs : Chars) : Option Instant := do
  let head := cs.take 1 ++ (cs.drop 1).takeWhile fun c => c != ':' && !isGap c
  let name := ((cs.drop head.length).dropWhile isGap).map Char.toLower
  let length := (String.ofList name).utf8ByteSize
  if length > 10 || length < 3 then none
  let name := if name.getLast? == some 's' then name.dropLast else name
  let (bound, seconds) ← units.lookup (String.ofList name)
  let found := scan head
  match found.shape with
  | .whole =>
    let n := (wholeStart head).value
    if -bound < n && n < bound then some ⟨i.millis + n * 1000 * seconds⟩ else none
  | .real =>
    let bound := Float.ofInt bound
    if -bound < found.value && found.value < bound then
      some (i.move found.value (Float.ofInt seconds))
    else none
  | _ => none

def modify? (i : Instant) (modifier : String) : Option Instant :=
  let cs := modifier.toList.takeWhile (· != '\x00')
  if ["localtime", "utc"].contains (String.ofList cs).toLower then some i
  else if i.isValid && cs.head?.any fun c => c == '+' || c == '-' || c.isDigit then i.moved? cs
  else none

def resolve? (i : Instant) (modifiers : Texts) : Option Instant := do
  let i ← modifiers.foldlM modify? i
  if i.isValid then some i else none

/-! ### Output -/

def paddedInt (width : Nat) (n : Int) : String :=
  if n < 0 then "-" ++ padded width n.natAbs else padded width n.natAbs

def dateText (i : Instant) : String :=
  let f := i.fields
  s!"{paddedInt 4 f.year}-{paddedInt 2 f.month}-{paddedInt 2 f.day}"

def timeText (i : Instant) : String :=
  let s := i.fields.clock / 1000
  s!"{padded 2 (s / 3600)}:{padded 2 (s / 60 % 60)}:{padded 2 (s % 60)}"

def stampText (i : Instant) : String := i.dateText ++ " " ++ i.timeText

end Instant

end Huntbook.Store
