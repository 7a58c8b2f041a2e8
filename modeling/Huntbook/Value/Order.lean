import Huntbook.Fault
import Huntbook.Text.Pieces

/-!
# Order of values

Values of comparable kinds have an order: numbers by what they count, texts by code points, dates by
the calendar, lists item by item.
-/

namespace Huntbook

namespace Value

def lessNumber : Int ⊕ Float → Int ⊕ Float → Bool
  | .inl a, .inl b => a < b
  | .inl a, .inr b => Decimal.intLess a b
  | .inr a, .inl b => Decimal.lessInt a b
  | .inr a, .inr b => a < b

def lessText (s t : String) : Bool := s < t

def lessDate (a b : Date) : Bool :=
  a.year < b.year || (a.year == b.year
    && (a.month < b.month || (a.month == b.month && a.day < b.day)))

def lessMoment (a b : Moment) : Try Bool :=
  match a.instant?, b.instant? with
  | some x, some y => .ok (x < y)
  | none, none =>
    .ok (a.toSeconds < b.toSeconds || (a.toSeconds == b.toSeconds && a.micro < b.micro))
  | _, _ => .error (.mismatch (.other "can't compare offset-naive and offset-aware datetimes"))

/-- Whether the first value comes before the second one. Lists are compared at the first items
    that differ; sets by inclusion. -/
def less (a b : Value) : Try Bool :=
  match number? a, number? b with
  | some x, some y => .ok (lessNumber x y)
  | _, _ =>
    match a, b with
    | .text s, .text t => .ok (lessText s t)
    | .bytes s, .bytes t => .ok (s < t)
    | .date s, .date t => .ok (lessDate s t)
    | .moment s, .moment t => lessMoment s t
    | .list xs, .list ys => lessAll xs ys
    | .tuple xs, .tuple ys => lessAll xs ys
    | .set xs, .set ys => .ok (xs.length < ys.length && xs.all fun x => ys.any (same x))
    | a, b => .error (.mismatch (.unordered a.kind b.kind))
where
  lessAll : List Value → List Value → Try Bool
    | [], ys => .ok (!ys.isEmpty)
    | _ :: _, [] => .ok false
    | x :: xs, y :: ys => if same x y then lessAll xs ys else less x y

end Value

section Sorting

variable {α : Type} (less : α → α → Try Bool)

/-- The items that go on falling, or not falling, after the last one, and the rest. -/
def runFrom (falling : Bool) (last : α) : List α → Try (List α × List α)
  | [] => .ok ([], [])
  | x :: xs => do
    if (← less x last) == falling then
      let (run, rest) ← runFrom falling x xs
      return (x :: run, rest)
    else return ([], x :: xs)

def halve (x : α) (items : Array α) : Nat → Nat → Nat → Try Nat
  | 0, low, _ => .ok low
  | n + 1, low, high =>
    if low < high then do
      let mid := low + (high - low) / 2
      match items[mid]? with
      | some y => if ← less x y then halve x items n low mid else halve x items n (mid + 1) high
      | none => return low
    else .ok low

def insertAll (sorted : List α) : List α → Try (List α)
  | [] => .ok sorted
  | x :: xs => do
    let place ← halve less x sorted.toArray (sorted.length + 1) 0 sorted.length
    insertAll (sorted.take place ++ x :: sorted.drop place) xs

def sortBy (items : List α) : Try (List α) :=
  match items with
  | [] => .ok []
  | [x] => .ok [x]
  | x :: y :: rest => do
    let falling ← less y x
    let (run, rest) ← runFrom less falling y rest
    insertAll less (if falling then (x :: y :: run).reverse else x :: y :: run) rest

end Sorting

end Huntbook
