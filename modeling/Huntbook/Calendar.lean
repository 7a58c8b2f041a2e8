/-!
# Calendar

Dates, times of day and offsets from universal time, in the Gregorian calendar from year 1 to
year 9999.
-/

namespace Huntbook

def padded (width n : Nat) : String :=
  let digits := Nat.toDigits 10 n
  String.ofList (List.replicate (width - digits.length) '0' ++ digits)

structure Date where
  (year month day : Nat)
  deriving DecidableEq, Inhabited

/-- A day with a time on it, and the offset of its clock from universal time in millionths of a
    second, if it is known. -/
structure Moment where
  date : Date
  (hour minute second micro : Nat)
  offset : Option Int
  deriving DecidableEq, Inhabited

/-- The part of a time that is out of range. -/
inductive CalendarError
  | year (n : Nat)
  | month
  | day
  | hour
  | minute
  | second
  | offset (micros : Int)
  deriving DecidableEq

def secondMicros : Int := 1000000

def dayMicros : Int := 86400000000

def durationText (micros : Int) : String :=
  let part (name : String) (n : Int) : List String := if n == 0 then [] else [s!"{name}={n}"]
  let parts := part "days" (micros.fdiv dayMicros)
    ++ part "seconds" ((micros.fmod dayMicros).fdiv secondMicros)
    ++ part "microseconds" (micros.fmod secondMicros)
  "datetime.timedelta(" ++ (if parts.isEmpty then "0" else ", ".intercalate parts) ++ ")"

def CalendarError.message : CalendarError → String
  | .year n => s!"year {n} is out of range"
  | .month => "month must be in 1..12"
  | .day => "day is out of range for month"
  | .hour => "hour must be in 0..23"
  | .minute => "minute must be in 0..59"
  | .second => "second must be in 0..59"
  | .offset n => "offset must be a timedelta strictly between -timedelta(hours=24) and "
      ++ s!"timedelta(hours=24), not {durationText n}."

def isLeap (year : Nat) : Bool := year % 4 == 0 && (year % 100 != 0 || year % 400 == 0)

def daysInMonth (year month : Nat) : Nat :=
  if month == 2 then if isLeap year then 29 else 28
  else if month == 4 || month == 6 || month == 9 || month == 11 then 30
  else 31

namespace Date

def check (d : Date) : Except CalendarError Date :=
  if d.year < 1 || d.year > 9999 then .error (.year d.year)
  else if d.month < 1 || d.month > 12 then .error .month
  else if d.day < 1 || d.day > daysInMonth d.year d.month then .error .day
  else .ok d

def text (d : Date) : String :=
  padded 4 d.year ++ "-" ++ padded 2 d.month ++ "-" ++ padded 2 d.day

def toDays (d : Date) : Nat :=
  let y := if d.month ≤ 2 then d.year - 1 else d.year
  let m := if d.month ≤ 2 then d.month + 9 else d.month - 3
  y * 365 + y / 4 - y / 100 + y / 400 + (m * 153 + 2) / 5 + (d.day - 1)

def ofDays (n : Nat) : Date :=
  let era := n / 146097
  let doe := n % 146097
  let yoe := (doe - doe / 1460 + doe / 36524 - doe / 146096) / 365
  let doy := doe - (365 * yoe + yoe / 4 - yoe / 100)
  let mp := (5 * doy + 2) / 153
  let day := doy - (153 * mp + 2) / 5 + 1
  let month := if mp < 10 then mp + 3 else mp - 9
  let year := yoe + era * 400
  ⟨if month ≤ 2 then year + 1 else year, month, day⟩

end Date

namespace Moment

def check (t : Moment) : Except CalendarError Moment := do
  let _ ← t.date.check
  if t.hour > 23 then .error .hour
  else if t.minute > 59 then .error .minute
  else if t.second > 59 then .error .second
  else .ok t

def offsetText (micros : Int) : String :=
  let n := micros.natAbs / 1000000
  let fraction := micros.natAbs % 1000000
  (if micros < 0 then "-" else "+") ++ padded 2 (n / 3600) ++ ":" ++ padded 2 (n / 60 % 60)
    ++ (if n % 60 == 0 && fraction == 0 then "" else ":" ++ padded 2 (n % 60))
    ++ (if fraction == 0 then "" else "." ++ padded 6 fraction)

def textWith (sep : String) (t : Moment) : String :=
  t.date.text ++ sep ++ padded 2 t.hour ++ ":" ++ padded 2 t.minute ++ ":" ++ padded 2 t.second
    ++ (if t.micro == 0 then "" else "." ++ padded 6 t.micro)
    ++ (match t.offset with
      | none => ""
      | some micros => offsetText micros)

def text (t : Moment) : String := t.textWith "T"

def toSeconds (t : Moment) : Nat :=
  t.date.toDays * 86400 + t.hour * 3600 + t.minute * 60 + t.second

def instant? (t : Moment) : Option Int :=
  t.offset.map fun offset => t.toSeconds * secondMicros + t.micro - offset

def same (a b : Moment) : Bool :=
  match a.instant?, b.instant? with
  | some x, some y => x == y
  | none, none => a == b
  | _, _ => false

def ofSeconds (n : Nat) : Moment :=
  ⟨Date.ofDays (n / 86400), n % 86400 / 3600, n % 3600 / 60, n % 60, 0, none⟩

end Moment

/-! ## Reading ISO moments

A date, optionally followed by one separating character and a time with an offset. -/

namespace Iso

def bytesOf (s : String) : List Char := s.toUTF8.toList.map fun b => Char.ofNat b.toNat

def isEnd (cs : List Char) : Bool := cs.headD '\x00' == '\x00'

def digits? (count : Nat) (cs : List Char) : Option (Nat × List Char) :=
  let ds := cs.take count
  if ds.length == count && ds.all Char.isDigit then
    some (ds.foldl (fun n d => n * 10 + (d.toNat - '0'.toNat)) 0, cs.drop count)
  else none

structure Clock where
  (hour minute second micro : Nat)

/-- The fraction of a second in millionths, cut after six digits, and whether text is left. -/
def fraction? (cs : List Char) : Option (Nat × Bool) := do
  let count := min 6 cs.length
  let (n, rest) ← digits? count cs
  return (n * Nat.pow 10 (6 - count), !isEnd (rest.dropWhile Char.isDigit))

def clockFrom (colons : Option Bool) : Nat → List Nat → List Char → Option (Clock × Bool)
  | 0, done, cs => do
    let (micro, left) ← fraction? cs
    return (ofParts done micro, left)
  | parts + 1, done, cs => do
    let (n, rest) ← digits? 2 cs
    let done := done ++ [n]
    match rest with
    | [] => return (ofParts done 0, false)
    | [c] => return (ofParts done 0, !isEnd [c])
    | c :: rest' =>
      let colons := colons.getD (c == ':')
      if colons && c == ':' then clockFrom colons parts done rest'
      else if c == '.' || c == ',' then
        let (micro, left) ← fraction? rest'
        return (ofParts done micro, left)
      else if colons then none
      else clockFrom colons parts done rest
where
  ofParts (parts : List Nat) (micro : Nat) : Clock :=
    ⟨parts.getD 0 0, parts.getD 1 0, parts.getD 2 0, micro⟩

def clock? (cs : List Char) : Option (Clock × Bool) := clockFrom none 3 [] cs

def startsOffset (c : Char) : Bool := c == '+' || c == '-' || c == 'Z'

def time? (cs : List Char) : Option (Clock × Option Int) := do
  let here := cs.takeWhile (!startsOffset ·)
  let (t, left) ← clock? here
  match cs.drop here.length with
  | [] => if left then none else return (t, none)
  | 'Z' :: rest => if isEnd rest then return (t, some 0) else none
  | sign :: rest =>
    let (o, left) ← clock? rest
    if left then none
    let seconds := o.hour * 3600 + o.minute * 60 + o.second
    let n : Int := if seconds == 0 then 0 else seconds * secondMicros + o.micro
    return (t, some (if sign == '-' then -n else n))

def dateLength (cs : List Char) : Nat :=
  let at? (i : Nat) := cs[i]?
  let isDigitAt (i : Nat) := (at? i).any Char.isDigit
  if cs.length == 7 then 7
  else if at? 4 == some '-' then
    if at? 5 == some 'W' then
      if at? 8 == some '-' && !isDigitAt 10 then 10 else 8
    else 10
  else if at? 4 == some 'W' then
    let pos := 7 + ((cs.drop 7).takeWhile Char.isDigit).length
    if pos < 9 then pos else if pos % 2 == 0 then 7 else 8
  else 8

/-- The day of an ISO week: its Thursday lies in the year that the week belongs to. A week of the
    year zero has no month. -/
def weekDate? (year week day : Nat) : Option Date :=
  if week < 1 || week > 53 || day < 1 || day > 7 then none
  else if year == 0 then if week == 53 then none else some ⟨1, 0, 1⟩
  else
    -- Day numbers count from a Wednesday, so a Monday leaves 5.
    let fourth := (Date.mk year 1 4).toDays
    let monday := fourth - (fourth + 2) % 7
    let next := (Date.mk (year + 1) 1 4).toDays
    let nextMonday := next - (next + 2) % 7
    let n := monday + (week - 1) * 7
    if week == 53 && n ≥ nextMonday then none else some (Date.ofDays (n + (day - 1)))

def date? (cs : List Char) : Option Date := do
  let (year, rest) ← digits? 4 cs
  let hyphens := rest.head? == some '-'
  let skip (cs : List Char) : Option (List Char) :=
    if hyphens then if cs.head? == some '-' then some (cs.drop 1) else none else some cs
  let rest := if hyphens then rest.drop 1 else rest
  match rest with
  | 'W' :: rest =>
    let (week, rest) ← digits? 2 rest
    let (day, _) ← if rest.isEmpty then some (1, []) else do digits? 1 (← skip rest)
    weekDate? year week day
  | rest =>
    let (month, rest) ← digits? 2 rest
    let (day, _) ← digits? 2 (← skip rest)
    return ⟨year, month, day⟩

def characterLength (c : Char) : Nat :=
  if c.toNat < 0x80 then 1
  else if c.toNat / 16 == 14 then 3
  else if c.toNat / 16 == 15 then 4
  else 2

inductive Error
  | malformed
  | calendar (e : CalendarError)

end Iso

def Moment.ofIso (s : String) : Except Iso.Error Moment :=
  let cs := Iso.bytesOf s
  let length := Iso.dateLength cs
  let parsed : Option Moment := do
    if cs.length < 7 then none
    let date ← Iso.date? (cs.take length)
    match cs.drop length with
    | [] => return ⟨date, 0, 0, 0, 0, none⟩
    | c :: rest =>
      let (t, offset) ← Iso.time? (rest.drop (Iso.characterLength c - 1))
      return ⟨date, t.hour, t.minute, t.second, t.micro, offset⟩
  match parsed with
  | none => .error .malformed
  | some t =>
    match t.offset.filter fun n => n.natAbs ≥ dayMicros with
    | some n => .error (.calendar (.offset n))
    | none =>
      match t.check with
      | .ok t => .ok t
      | .error e => .error (.calendar e)

end Huntbook
