import Huntbook.Calendar
import Huntbook.Decimal
import Huntbook.Text.Printable

/-!
# Values

The data that rules, playbooks and requests are made of: what JSON and YAML documents can hold.
-/

namespace Huntbook

/-- What documents, requests and answers are made of. -/
inductive Value where
  | null
  | bool (b : Bool)
  | int (n : Int)
  | float (x : Float)
  | text (s : String)
  | bytes (data : List UInt8)
  | date (d : Date)
  | moment (t : Moment)
  | list (items : List Value)
  | tuple (items : List Value)
  | set (items : List Value)
  | map (entries : List (Value × Value))
  deriving Inhabited

/-- The entries of a mapping. -/
abbrev Entries := List (Value × Value)

/-- Values with their names. -/
abbrev Fields := List (String × Value)

inductive Kind
  | null | bool | int | float | text | bytes | date | moment | list | tuple | set | map
  deriving DecidableEq

def Kind.name : Kind → String
  | .null => "NoneType"
  | .bool => "bool"
  | .int => "int"
  | .float => "float"
  | .text => "str"
  | .bytes => "bytes"
  | .date => "datetime.date"
  | .moment => "datetime.datetime"
  | .list => "list"
  | .tuple => "tuple"
  | .set => "set"
  | .map => "dict"

def Kind.shortName : Kind → String
  | .date => "date"
  | .moment => "datetime"
  | k => k.name

namespace Value

def kind : Value → Kind
  | .null => .null
  | .bool _ => .bool
  | .int _ => .int
  | .float _ => .float
  | .text _ => .text
  | .bytes _ => .bytes
  | .date _ => .date
  | .moment _ => .moment
  | .list _ => .list
  | .tuple _ => .tuple
  | .set _ => .set
  | .map _ => .map

def truthy : Value → Bool
  | .null => false
  | .bool b => b
  | .int n => n != 0
  | .float x => x != 0
  | .text s => !s.isEmpty
  | .bytes data => !data.isEmpty
  | .date _ => true
  | .moment _ => true
  | .list items => !items.isEmpty
  | .tuple items => !items.isEmpty
  | .set items => !items.isEmpty
  | .map entries => !entries.isEmpty

def text? : Value → Option String
  | .text s => some s
  | _ => none

def entries? : Value → Option Entries
  | .map entries => some entries
  | _ => none

def isNull : Value → Bool
  | .null => true
  | _ => false

def ofText? : Option String → Value
  | none => .null
  | some s => .text s

def ofTexts (items : Texts) : Value := .list (items.map .text)

def record (fields : Fields) : Value := .map (fields.map fun f => (.text f.1, f.2))

end Value

end Huntbook

namespace Huntbook.Value

/-! ## Equality of values

When two values are the same: numbers by what they count, truth values as one and zero, mappings by
their entries in any order, everything else by its parts. -/

def number? : Value → Option (Int ⊕ Float)
  | .bool b => some (.inl (if b then 1 else 0))
  | .int n => some (.inl n)
  | .float x => some (.inr x)
  | _ => none

def sameNumber : Int ⊕ Float → Int ⊕ Float → Bool
  | .inl a, .inl b => a == b
  | .inl a, .inr b => Decimal.whole? b == some a
  | .inr a, .inl b => Decimal.whole? a == some b
  | .inr a, .inr b => a == b

mutual

def same : Value → Value → Bool
  | .null, .null => true
  | .bool a, b => (number? b).any (sameNumber (.inl (if a then 1 else 0)))
  | .int a, b => (number? b).any (sameNumber (.inl a))
  | .float a, b => (number? b).any (sameNumber (.inr a))
  | .text a, .text b => a == b
  | .bytes a, .bytes b => a == b
  | .date a, .date b => a == b
  | .moment a, .moment b => a.same b
  | .list as, .list bs => sameAll as bs
  | .tuple as, .tuple bs => sameAll as bs
  | .set as, .set bs => as.length == bs.length && sameIn as bs
  | .map as, .map bs => as.length == bs.length && sameEntries as bs
  | _, _ => false

def sameAll : List Value → List Value → Bool
  | [], [] => true
  | a :: as, b :: bs => same a b && sameAll as bs
  | _, _ => false

def sameIn : List Value → List Value → Bool
  | [], _ => true
  | a :: as, bs => bs.any (same a) && sameIn as bs

def sameEntries : Entries → Entries → Bool
  | [], _ => true
  | (k, v) :: rest, bs => bs.any (fun e => same k e.1 && same v e.2) && sameEntries rest bs

end

def find? (entries : Entries) (key : Value) : Option Value :=
  (entries.find? fun e => key.same e.1).map (·.2)

def entry? (v key : Value) : Option Value := v.entries?.bind (find? · key)

def field? (v : Value) (name : String) : Option Value := v.entry? (.text name)

def put (key value : Value) : Entries → Entries
  | [] => [(key, value)]
  | (k, v) :: rest => if key.same k then (k, value) :: rest else (k, v) :: put key value rest

def remove (key : Value) (entries : Entries) : Entries := entries.filter fun e => !key.same e.1

def putField (name : String) (value : Value) (entries : Entries) : Entries :=
  put (.text name) value entries

def ofEntries (entries : Entries) : Entries := entries.foldl (fun acc e => put e.1 e.2 acc) []

def distinct (items : List Value) : List Value :=
  items.foldl (fun acc v => if acc.any (same v) then acc else acc ++ [v]) []

mutual

def hashable : Value → Bool
  | .list _ => false
  | .set _ => false
  | .map _ => false
  | .tuple items => allHashable items
  | _ => true

def allHashable : List Value → Bool
  | [] => true
  | v :: vs => hashable v && allHashable vs

end

/-! ## Dates as texts

Dates and moments of a document as their ISO texts. Keys are left as they are, and only mappings
and lists are gone through. -/

mutual

def withDateTexts : Value → Value
  | .date d => .text d.text
  | .moment t => .text t.text
  | .map entries => .map (entriesWithDateTexts entries)
  | .list items => .list (itemsWithDateTexts items)
  | v => v

def entriesWithDateTexts : Entries → Entries
  | [] => []
  | (k, v) :: rest => (k, withDateTexts v) :: entriesWithDateTexts rest

def itemsWithDateTexts : List Value → List Value
  | [] => []
  | v :: vs => withDateTexts v :: itemsWithDateTexts vs

end

end Huntbook.Value

namespace Huntbook

/-! ## Values as text

How values appear inside messages and queries. A text stands for itself at the top and is quoted
inside lists and mappings. -/

def quoteByte (quote : Char) (b : UInt8) : String :=
  let c := Char.ofNat b.toNat
  if c == quote || c == '\\' then String.ofList ['\\', c]
  else if c == '\n' then "\\n"
  else if c == '\r' then "\\r"
  else if c == '\t' then "\\t"
  else if 32 ≤ b.toNat && b.toNat < 127 then c.toString
  else "\\x" ++ Text.hex 2 b.toNat

def quotedBytes (data : List UInt8) : String :=
  let quote := if data.contains 39 && !data.contains 34 then '"' else '\''
  "b" ++ quote.toString ++ String.join (data.map (quoteByte quote)) ++ quote.toString

def boolText (b : Bool) : String := if b then "True" else "False"

def Date.shown (d : Date) : String := s!"datetime.date({d.year}, {d.month}, {d.day})"

def shownOffset (micros : Int) : String :=
  if micros == 0 then "datetime.timezone.utc"
  else "datetime.timezone(" ++ durationText micros ++ ")"

def Moment.shown (t : Moment) : String :=
  let fraction := if t.micro == 0 then [] else [t.second, t.micro]
  let seconds := if t.micro == 0 && t.second != 0 then [t.second] else fraction
  let numbers := [t.date.year, t.date.month, t.date.day, t.hour, t.minute] ++ seconds
  let zone := match t.offset with
    | none => []
    | some micros => ["tzinfo=" ++ shownOffset micros]
  "datetime.datetime(" ++ ", ".intercalate (numbers.map toString ++ zone) ++ ")"

namespace Value

mutual

def shown : Value → String
  | .null => "None"
  | .bool b => boolText b
  | .int n => toString n
  | .float x => Decimal.text x
  | .text s => Text.quoted s
  | .bytes data => quotedBytes data
  | .date d => d.shown
  | .moment t => t.shown
  | .list items => "[" ++ ", ".intercalate (shownAll items) ++ "]"
  | .tuple [v] => "(" ++ shown v ++ ",)"
  | .tuple items => "(" ++ ", ".intercalate (shownAll items) ++ ")"
  | .set [] => "set()"
  | .set items => "\x7b" ++ ", ".intercalate (shownAll items) ++ "\x7d"
  | .map entries => "\x7b" ++ ", ".intercalate (shownEntries entries) ++ "\x7d"

def shownAll : List Value → Texts
  | [] => []
  | v :: vs => shown v :: shownAll vs

def shownEntries : Entries → Texts
  | [] => []
  | (k, v) :: rest => (shown k ++ ": " ++ shown v) :: shownEntries rest

end

mutual

/-- The whole numbers in a value. -/
def wholes : Value → List Int
  | .int n => [n]
  | .list items | .tuple items | .set items => wholesOf items
  | .map entries => wholesWithin entries
  | _ => []

def wholesOf : List Value → List Int
  | [] => []
  | v :: vs => wholes v ++ wholesOf vs

def wholesWithin : Entries → List Int
  | [] => []
  | (k, v) :: rest => wholes k ++ wholes v ++ wholesWithin rest

end

def plain : Value → String
  | .text s => s
  | .date d => d.text
  | .moment t => t.textWith " "
  | v => v.shown

end Value

end Huntbook
