import Huntbook.Form.Error
import Huntbook.Text.Finder

/-!
# Forms

A form says which fields a record has and what may stand in them. Filling in a form checks every
field and takes values as the kind that is asked for; all errors are reported, in the order of the
fields.
-/

namespace Huntbook.Form

/-! ## Taking values as something else

Forms are lenient about kinds: a number may stand where a text is asked for, a text where a number
or a truth value is. -/

def textOf : Value → Except Problem String
  | .null => .error .nullValue
  | .text s => .ok s
  | .int n =>
    if Decimal.isLongWhole n then .error (.rejected Decimal.longWhole) else .ok (toString n)
  | .bool b => .ok (boolText b)
  | .float x => .ok (Decimal.text x)
  | .bytes data =>
    match String.fromUTF8? ⟨data.toArray⟩ with
    | some s => .ok s
    | none => .error .notText
  | _ => .error .notText

def intOf : Value → Except Problem Int
  | .null => .error .nullValue
  | .int n => .ok n
  | .bool b => .ok (if b then 1 else 0)
  | .float x =>
    match Decimal.truncate? x with
    | some n => .ok n
    | none => .error (if x.isNaN then .notInteger else .infinite)
  | .text s =>
    match Decimal.readInt? s with
    | some n => .ok n
    | none => .error .notInteger
  | _ => .error .notInteger

def trueTexts : Texts := ["1", "on", "t", "true", "y", "yes"]

def falseTexts : Texts := ["0", "off", "f", "false", "n", "no"]

def boolOf : Value → Except Problem Bool
  | .null => .error .nullValue
  | .bool b => .ok b
  | .int n => if n == 1 then .ok true else if n == 0 then .ok false else .error .notBool
  | .float x => if x == 1 then .ok true else if x == 0 then .ok false else .error .notBool
  | .text s =>
    let s := Text.lower s
    if trueTexts.contains s then .ok true
    else if falseTexts.contains s then .ok false
    else .error .notBool
  | _ => .error .notBool

/-! ## Reading moments

A value taken as a moment: an ISO text with a time, or a number of seconds since the start of 1970.
-/

def digits? (least most : Nat) (cs : Chars) : Option (Nat × Chars) :=
  let ds := (cs.take most).takeWhile Text.isDecimal
  if ds.length < least then none
  else some (ds.foldl (fun n d => n * 10 + (Text.decimalValue? d).getD 0) 0, cs.drop ds.length)

def after? (c : Char) (cs : Chars) : Option Chars := Text.one? (· == c) cs

def seconds? (cs : Chars) : Option (Nat × Nat × Chars) := do
  let (second, rest) ← digits? 1 2 cs
  match after? '.' rest with
  | some fraction =>
    match digits? 1 6 fraction with
    | some (n, after) =>
      let length := fraction.length - after.length
      let ignored := (after.take 6).takeWhile Text.isDecimal
      return (second, n * Nat.pow 10 (6 - length), after.drop ignored.length)
    | none => return (second, 0, rest)
  | none => return (second, 0, rest)

def offset? (cs : Chars) : Option (Option Int) :=
  match cs with
  | [] => some none
  | ['\n'] => some none
  | c :: rest =>
    let ends (cs : Chars) := cs.isEmpty || cs == ['\n']
    if c == 'Z' then if ends rest then some (some 0) else none
    else if c == '+' || c == '-' then do
      let (hours, rest) ← digits? 2 2 rest
      let (minutes, rest) ←
        if ends rest then pure (0, rest) else digits? 2 2 ((after? ':' rest).getD rest)
      if !ends rest then none
      let n := (hours * 3600 + minutes * 60) * secondMicros
      return some (if c == '-' then -n else n)
    else none

def isoMoment? (s : String) : Option Moment := do
  let (year, cs) ← digits? 4 4 s.toList
  let (month, cs) ← digits? 1 2 (← after? '-' cs)
  let (day, cs) ← digits? 1 2 (← after? '-' cs)
  let cs ← Text.one? (fun c => c == 'T' || c == ' ') cs
  let (hour, cs) ← digits? 1 2 cs
  let (minute, cs) ← digits? 1 2 (← after? ':' cs)
  let (second, micro, cs) ← match after? ':' cs with
    | some rest => seconds? rest
    | none => some (0, 0, cs)
  let offset ← offset? cs
  if offset.any fun n => n.natAbs ≥ dayMicros then none
  (Moment.check ⟨⟨year, month, day⟩, hour, minute, second, micro, offset⟩).toOption

def inSeconds : Nat → Float → Float
  | 0, x => x
  | n + 1, x => if x.abs > 20000000000.0 then inSeconds n (x / 1000.0) else x

def lastMoment : Moment := ⟨⟨9999, 12, 31⟩, 23, 59, 59, 999999, none⟩

def firstMoment : Moment := ⟨⟨1, 1, 1⟩, 0, 0, 0, 0, none⟩

/-- A number of seconds in millionths, where a half goes to the even neighbour. Whole seconds are
    set apart first, so that they take no digits from the fraction. -/
def micros? (x : Float) : Option Int := do
  let whole ← Decimal.truncate? x
  let millionths := (x - Float.ofInt whole) * 1000000.0
  let n ← Decimal.truncate? millionths
  let rest := millionths - Float.ofInt n
  let total := whole * 1000000 + n
  let away : Int := if rest < 0 then -1 else 1
  if rest.abs > 0.5 || (rest.abs == 0.5 && total % 2 != 0) then return total + away
  else return total

def unixMoment? (x : Float) : Option Moment := do
  let start : Int := (Moment.mk ⟨1970, 1, 1⟩ 0 0 0 0 none).toSeconds
  let total := start * 1000000 + (← micros? (inSeconds 10 x))
  if total < 0 then none
  let t := Moment.ofSeconds (total.toNat / 1000000)
  (Moment.check { t with micro := total.toNat % 1000000, offset := some 0 }).toOption

def greatestNumber : Int := 300000000000000000000

def ofDouble (x : Float) : Except Problem Moment :=
  if x.isNaN then .error (.rejected "cannot convert float NaN to integer")
  else if Decimal.intLess greatestNumber x then .ok lastMoment
  else if Decimal.lessInt x (-greatestNumber) then .ok firstMoment
  else match unixMoment? x with
    | some t => .ok t
    | none => .error .notMoment

def ofWhole (n : Int) : Except Problem Moment :=
  if n > greatestNumber then .ok lastMoment
  else if n < -greatestNumber then .ok firstMoment
  else
    -- A number that is no time in seconds is divided before it is rounded.
    let size := if n.natAbs > 20000000000 then Decimal.doubleOf n.natAbs (-3)
      else Float.ofInt n.natAbs
    ofDouble (if n < 0 then -size else size)

def momentOf : Value → Except Problem Moment
  | .null => .error .nullValue
  | .moment t => .ok t
  | .int n => ofWhole n
  | .bool b => ofWhole (if b then 1 else 0)
  | .float x => ofDouble x
  | .text s =>
    match Decimal.readDouble? s.toList with
    | some x => ofDouble x
    | none =>
      match isoMoment? s with
      | some t => .ok t
      | none => .error .notMoment
  | _ => .error .noMomentKind

end Huntbook.Form

namespace Huntbook.Form

/-- What a field of a form takes. -/
inductive Kind
  | any
  | text (least most : Option Nat)
  | int
  | within (least most : Option Int)
  | bool
  | moment
  | choice (permitted : Texts)
  | list (item : Kind)
  | dict (value : Kind)
  | optional (inner : Kind)
  | tested (inner : Kind) (test : String → Except String String)
  | form (fields : List (String × Kind × Option Value))

/-- A field of a form: its name, what it takes, and its default. -/
abbrev Field := String × Kind × Option Value

def Kind.anyText : Kind := .text none none

def pair? : Value → Option (Value × Value)
  | .list [a, b] => some (a, b)
  | .tuple [a, b] => some (a, b)
  | .text s =>
    match s.toList with
    | [a, b] => some (.text a.toString, .text b.toString)
    | _ => none
  | .map [(a, _), (b, _)] => some (a, b)
  | _ => none

def entriesOfPairs? (items : List Value) : Option Entries := do
  let pairs ← items.mapM pair?
  if pairs.all fun p => p.1.hashable then some (Value.ofEntries pairs) else none

def asEntries? : Value → Option Entries
  | .map entries => some entries
  | .list items => entriesOfPairs? items
  | .tuple items => entriesOfPairs? items
  | .text s => if s.isEmpty then some [] else none
  | _ => none

def here (p : Problem) : List Error := [⟨[], p⟩]

def collect {α : Type} : List (Except (List Error) α) → Except (List Error) (List α)
  | [] => .ok []
  | .ok a :: rest => (collect rest).map (a :: ·)
  | .error es :: rest =>
    match collect rest with
    | .ok _ => .error es
    | .error more => .error (es ++ more)

def under {α : Type} (step : Step) (r : Except (List Error) α) : Except (List Error) α :=
  r.mapError (·.map (·.under step))

def checkLength (least most : Option Nat) (s : String) : Except Problem String :=
  match least.filter (s.length < ·), most.filter (s.length > ·) with
  | some n, _ => .error (.tooShort n)
  | none, some n => .error (.tooLong n)
  | none, none => .ok s

def checkSize (least most : Option Int) (n : Int) : Except Problem Int :=
  match least.filter (n < ·), most.filter (n > ·) with
  | some m, _ => .error (.tooSmall m)
  | none, some m => .error (.tooLarge m)
  | none, none => .ok n

def checkChoice (permitted : Texts) (v : Value) : Except Problem String :=
  match v with
  | .null => .error .nullValue
  | .text s => if permitted.contains s then .ok s else .error (.notMember permitted)
  | _ => .error (.notMember permitted)

namespace Kind

mutual

def check : Kind → Value → Except (List Error) Value
  | .any, v => .ok v
  | .text least most, v => (do checkLength least most (← textOf v)).mapError here |>.map .text
  | .int, v => (intOf v).mapError here |>.map .int
  | .within least most, v => (do checkSize least most (← intOf v)).mapError here |>.map .int
  | .bool, v => (boolOf v).mapError here |>.map .bool
  | .moment, v => (momentOf v).mapError here |>.map .moment
  | .choice permitted, v => (checkChoice permitted v).mapError here |>.map .text
  | .list item, v =>
    match v with
    | .null => .error (here .nullValue)
    | .list items =>
      (collect (items.zipIdx.map fun (x, i) => under (.index i) (check item x))).map .list
    | .tuple items =>
      (collect (items.zipIdx.map fun (x, i) => under (.index i) (check item x))).map .list
    | _ => .error (here .notList)
  | .dict value, v =>
    match v, asEntries? v with
    | .null, _ => .error (here .nullValue)
    | _, none => .error (here .notMap)
    | _, some entries =>
      (collect (entries.map fun (k, x) =>
        match textOf k with
        | .error p => under (.name "__key__") (.error (here p))
        | .ok key => (under (.name key) (check value x)).map fun x => (Value.text key, x))).map
        fun entries => .map (Value.ofEntries entries)
  | .optional inner, v => if v.isNull then .ok .null else check inner v
  | .tested inner test, v => do
    match ← check inner v with
    | .text s =>
      match test s with
      | .ok s => return .text s
      | .error wording => throw (here (.rejected wording))
    | v => return v
  | .form fields, v =>
    match v, asEntries? v with
    | .null, _ => .error (here .nullValue)
    | _, none => .error (here .notMap)
    | _, some entries => (checkFields fields entries).map .record

def checkFields : List Field → Entries →
    Except (List Error) Fields
  | [], _ => .ok []
  | (name, kind, default) :: rest, entries =>
    let own : Except (List Error) Value :=
      match Value.find? entries (.text name), default with
      | some v, _ => check kind v
      | none, some v => .ok v
      | none, none => .error (here .missing)
    match under (.name name) own, checkFields rest entries with
    | .ok v, .ok more => .ok ((name, v) :: more)
    | .ok _, .error es => .error es
    | .error es, .ok _ => .error es
    | .error es, .error more => .error (es ++ more)

end

end Kind

def required (name : String) (kind : Kind := .anyText) : Field := (name, kind, none)

def withDefault (name : String) (kind : Kind) (default : Value) : Field := (name, kind, some default)

def optional (name : String) (kind : Kind := .anyText) : Field := (name, .optional kind, some .null)

end Huntbook.Form

namespace Huntbook

/-- A form: its fields, with defaults for those that may be left out. -/
structure Form where
  name : String
  fields : List Form.Field

namespace Form

def toKind (f : Form) : Kind := .form f.fields

def fillFields (f : Form) (v : Value) : Except (List Error) Fields :=
  match asEntries? v with
  | some entries => Kind.checkFields f.fields entries
  | none => .error [⟨[.name "__root__"], .notForm f.name v.kind.name⟩]

def fill (f : Form) (v : Value) : Except (List Error) Value := (f.fillFields v).map .record

end Form

end Huntbook

