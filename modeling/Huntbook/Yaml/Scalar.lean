import Huntbook.Fault
import Huntbook.Text.Case
import Huntbook.Text.Pieces

/-!
# Scalars

What an unquoted scalar stands for. A text is tried as a truth value, a number, a merge key, null
and a timestamp, in this order; if it is none of them it is a text.
-/

namespace Huntbook.Yaml

inductive Tag
  | null
  | bool
  | int
  | float
  | text
  | binary
  | timestamp
  | merge
  | default
  | seq
  | map
  | set
  | omap
  | pairs
  | tuple
  | other (name : String)
  deriving DecidableEq

def knownTags : List (String × Tag) :=
  [("null", .null), ("bool", .bool), ("int", .int), ("float", .float), ("str", .text),
   ("binary", .binary), ("timestamp", .timestamp), ("merge", .merge), ("value", .default),
   ("seq", .seq), ("map", .map), ("set", .set), ("omap", .omap), ("pairs", .pairs)]

def Tag.shorthand : Tag → String
  | .null => "!!null"
  | .bool => "!!bool"
  | .int => "!!int"
  | .float => "!!float"
  | .text => "!!str"
  | .binary => "!!binary"
  | .timestamp => "!!timestamp"
  | .merge => "!!merge"
  | .default => "!!value"
  | .seq => "!!seq"
  | .map => "!!map"
  | .set => "!!set"
  | .omap => "!!omap"
  | .pairs => "!!pairs"
  | .tuple => "!!python/tuple"
  | .other _ => "!"

def isHex (c : Char) : Bool := (Json.hexValue? c).isSome

def isDigitOrGap (c : Char) : Bool := c.isDigit || c == '_'

def unsigned : Chars → Chars
  | '-' :: cs => cs
  | '+' :: cs => cs
  | cs => cs

def someAll (p : Char → Bool) (cs : Chars) : Bool := !cs.isEmpty && cs.all p

def isSixtieth : Chars → Bool
  | [d] => d.isDigit
  | [t, d] => '0' ≤ t && t ≤ '5' && d.isDigit
  | _ => false

def boolWords : List (String × Bool) :=
  [("yes", true), ("Yes", true), ("YES", true), ("no", false), ("No", false), ("NO", false),
   ("true", true), ("True", true), ("TRUE", true), ("false", false), ("False", false),
   ("FALSE", false), ("on", true), ("On", true), ("ON", true), ("off", false), ("Off", false),
   ("OFF", false)]

def isInt (cs : Chars) : Bool :=
  match unsigned cs with
  | ['0'] => true
  | '0' :: 'b' :: ds => someAll (fun c => c == '0' || c == '1' || c == '_') ds
  | '0' :: 'x' :: ds => someAll (fun c => isHex c || c == '_') ds
  | '0' :: ds => someAll (fun c => ('0' ≤ c && c ≤ '7') || c == '_') ds
  | d :: ds =>
    d.isDigit &&
      match Text.splitList ':' ds with
      | [] => false
      | first :: rest => first.all isDigitOrGap && rest.all isSixtieth
  | [] => false

def isExponent : Chars → Bool
  | [] => true
  | e :: s :: ds => (e == 'e' || e == 'E') && (s == '-' || s == '+') && someAll Char.isDigit ds
  | _ => false

def isFraction (cs : Chars) : Bool := isExponent (cs.dropWhile isDigitOrGap)

def isSixtyFloat : List Chars → Bool
  | [] => false
  | [last] =>
    isSixtieth (last.takeWhile Char.isDigit) &&
      match last.dropWhile Char.isDigit with
      | '.' :: ds => ds.all isDigitOrGap
      | _ => false
  | part :: parts => isSixtieth part && isSixtyFloat parts

def isFloat (cs : Chars) : Bool :=
  let body := unsigned cs
  (match body with
    | d :: ds =>
      d.isDigit &&
        ((match ds.dropWhile isDigitOrGap with
          | '.' :: fraction => isFraction fraction
          | _ => false)
        || (match Text.splitList ':' ds with
          | first :: part :: parts => first.all isDigitOrGap && isSixtyFloat (part :: parts)
          | _ => false))
    | [] => false)
  || (match cs with
    | '.' :: d :: ds => d.isDigit && isFraction ds
    | _ => false)
  || [".inf", ".Inf", ".INF"].contains (String.ofList body)
  || [".nan", ".NaN", ".NAN"].contains (String.ofList cs)

/-- The parts of a time, as they are written. -/
structure Stamp where
  (year month day : Chars)
  time : Option (Chars × Chars × Chars)
  fraction : Chars
  zone : Option (Option Bool × Chars × Chars)

def shortNumber? : Chars → Option (Chars × Chars)
  | a :: b :: cs =>
    if a.isDigit then if b.isDigit then some ([a, b], cs) else some ([a], b :: cs) else none
  | [a] => if a.isDigit then some ([a], []) else none
  | [] => none

def twoDigits? : Chars → Option (Chars × Chars)
  | a :: b :: cs => if a.isDigit && b.isDigit then some ([a, b], cs) else none
  | _ => none

def isStampBlank (c : Char) : Bool := c == ' ' || c == '\t'

def zone? (cs : Chars) : Option (Option (Option Bool × Chars × Chars)) :=
  if cs.isEmpty then some none
  else match cs.dropWhile isStampBlank with
    | ['Z'] => some (some (none, [], []))
    | s :: rest =>
      if s == '-' || s == '+' then do
        let (hours, rest) ← shortNumber? rest
        match rest with
        | [] => return some (some (s == '-'), hours, [])
        | ':' :: rest => do
          let (minutes, rest) ← twoDigits? rest
          if rest.isEmpty then return some (some (s == '-'), hours, minutes) else none
        | _ => none
      else none
    | [] => none

def stamp? (cs : Chars) : Option Stamp := do
  let year := cs.take 4
  if year.length != 4 || !year.all Char.isDigit then none
  else match cs.drop 4 with
    | '-' :: rest => do
      let (month, rest) ← shortNumber? rest
      match rest with
      | '-' :: rest => do
        let (day, rest) ← shortNumber? rest
        if rest.isEmpty then return ⟨year, month, day, none, [], none⟩
        let clock ← match rest with
          | 'T' :: rest => some rest
          | 't' :: rest => some rest
          | c :: rest => if isStampBlank c then some (rest.dropWhile isStampBlank) else none
          | [] => none
        let (hour, rest) ← shortNumber? clock
        match rest with
        | ':' :: rest => do
          let (minute, rest) ← twoDigits? rest
          match rest with
          | ':' :: rest => do
            let (second, rest) ← twoDigits? rest
            let (fraction, rest) := match rest with
              | '.' :: rest => (rest.takeWhile Char.isDigit, rest.dropWhile Char.isDigit)
              | rest => ([], rest)
            let zone ← zone? rest
            return ⟨year, month, day, some (hour, minute, second), fraction, zone⟩
          | _ => none
        | _ => none
      | _ => none
    | _ => none

def isTimestamp (cs : Chars) : Bool :=
  match stamp? cs with
  | none => false
  | some s => s.time.isSome || (s.month.length == 2 && s.day.length == 2)

def resolveLine (s : String) : Tag :=
  let cs := s.toList
  if (boolWords.any fun w => w.1 == s) then .bool
  else if isFloat cs then .float
  else if isInt cs then .int
  else if s == "<<" then .merge
  else if ["~", "null", "Null", "NULL", ""].contains s then .null
  else if isTimestamp cs then .timestamp
  else if s == "=" then .default
  else if ["!", "&", "*"].contains s then .other "tag:yaml.org,2002:yaml"
  else .text

def withoutFeed (s : String) : String :=
  match s.toList.reverse with
  | '\n' :: before => String.ofList before.reverse
  | _ => s

def resolve (s : String) : Tag := if s == "\n" then .text else resolveLine (withoutFeed s)

def intValue (s : String) : Try Value := do
  let cs := s.toList.filter (· != '_')
  let sign : Int := if cs.head? == some '-' then -1 else 1
  let n ← match unsigned cs with
    | [] => Except.error .outOfRange
    | ['0'] => Except.ok 0
    | '0' :: 'b' :: ds => Fault.readBase 2 ds
    | '0' :: 'x' :: ds => Fault.readBase 16 ds
    | '0' :: ds => Fault.readBase 8 ('0' :: ds)
    | ds =>
      if ds.contains ':' then
        (Text.splitList ':' ds).foldlM (fun n part => do return n * 60 + (← Fault.readBase 10 part)) 0
      else Fault.readBase 10 ds
  return .int (sign * n)

def badFloat (cs : Chars) : Fault :=
  .refused s!"could not convert string to float: {Text.quoted (String.ofList cs)}"

def decimal (cs : Chars) : Try Float :=
  match Decimal.readDouble? cs with
  | some x => .ok x
  | none => .error (badFloat cs)

def sixtyFold : Nat → Float → List Float → Try Float
  | _, x, [] => .ok x
  | base, x, part :: parts =>
    let size := Decimal.doubleOf base 0
    if size.isInf then .error (.overflow "int too large to convert to float")
    else sixtyFold (base * 60) (x + part * size) parts

def floatValue (s : String) : Try Value := do
  let cs := (Text.lower (String.ofList (s.toList.filter (· != '_')))).toList
  if cs.isEmpty then throw .outOfRange
  let sign : Float := if cs.head? == some '-' then -1.0 else 1.0
  let body := unsigned cs
  if String.ofList body == ".inf" then return .float (sign / 0.0)
  else if String.ofList body == ".nan" then return .float (0.0 / 0.0)
  else if body.contains ':' then
    let parts ← (Text.splitList ':' body).mapM decimal
    return .float (sign * (← sixtyFold 1 0.0 parts.reverse))
  else return .float (sign * (← decimal body))

def numberOf (ds : Chars) : Nat := Decimal.natOf ds

def stampValue (s : Stamp) : Except CalendarError Value := do
  let date : Date := ⟨numberOf s.year, numberOf s.month, numberOf s.day⟩
  match s.time with
  | none => return .date (← date.check)
  | some (hour, minute, second) =>
    let fraction := s.fraction.take 6
    let micro := numberOf (fraction ++ List.replicate (6 - fraction.length) '0')
    let offset : Option Int := s.zone.map fun
      | (none, _, _) => 0
      | (some negative, hours, minutes) =>
        let n := (numberOf hours * 3600 + numberOf minutes * 60) * secondMicros
        if negative then -n else n
    if let some n := offset then if n.natAbs ≥ dayMicros then throw (.offset n)
    return .moment (← Moment.check
      ⟨date, numberOf hour, numberOf minute, numberOf second, micro, offset⟩)

def base64Value? (c : Char) : Option Nat :=
  if 'A' ≤ c && c ≤ 'Z' then some (c.toNat - 'A'.toNat)
  else if 'a' ≤ c && c ≤ 'z' then some (c.toNat - 'a'.toNat + 26)
  else if c.isDigit then some (c.toNat - '0'.toNat + 52)
  else if c == '+' then some 62
  else if c == '/' then some 63
  else none

def bytesOfSextets : List Nat → Option (List UInt8)
  | a :: b :: c :: d :: rest => do
    let n := ((a * 64 + b) * 64 + c) * 64 + d
    let more ← bytesOfSextets rest
    return UInt8.ofNat (n / 65536) :: UInt8.ofNat (n / 256 % 256) :: UInt8.ofNat (n % 256) :: more
  | [a, b, c] =>
    let n := (a * 64 + b) * 64 + c
    some [UInt8.ofNat (n / 1024), UInt8.ofNat (n / 4 % 256)]
  | [a, b] => some [UInt8.ofNat ((a * 64 + b) / 16)]
  | [_] => none
  | [] => some []

/-- The values of six bits in a text, up to the padding that fills a group of four. `place` counts
    the values of the current group and `pads` the padding after them; characters that do not
    belong to base 64 are skipped. Gives nothing if a group is left unfilled. -/
def sextets? : Nat → Nat → Chars → Option (List Nat)
  | place, _, [] => if place == 0 then some [] else none
  | place, pads, c :: cs =>
    if c == '=' then
      if place ≥ 2 && place + pads + 1 ≥ 4 then some []
      else sextets? place (if place ≥ 2 then pads + 1 else pads) cs
    else match base64Value? c with
      | some n => (sextets? ((place + 1) % 4) 0 cs).map (n :: ·)
      | none => sextets? place pads cs

def base64? (cs : Chars) : Option (List UInt8) := (sextets? 0 0 cs).bind bytesOfSextets

def valueError (problem : String) : Fault := .yaml ⟨.values, problem⟩

def scalarValue (tag : Tag) (s : String) : Try Value :=
  match tag with
  | .null => .ok .null
  | .bool =>
    match boolWords.find? fun w => w.1 == Text.lower s with
    | some (_, b) => .ok (.bool b)
    | none => .error (.noEntry (.text (Text.lower s)))
  | .int => intValue s
  | .float => floatValue s
  | .text => .ok (.text s)
  | .binary =>
    if s.toList.any fun c => c.toNat > 127 then
      .error (valueError "failed to convert base64 data into ascii")
    else match base64? s.toList with
      | some data => .ok (.bytes data)
      | none => .error (valueError "failed to decode base64 data")
  | .timestamp =>
    match stamp? (withoutFeed s).toList with
    | some stamp => (stampValue stamp).mapError fun e => .refused e.message
    | none => .error (.noOperation .null "groupdict")
  | .seq | .omap | .pairs => .error (valueError "expected a sequence node, but found scalar")
  | .map | .set => .error (valueError "expected a mapping node, but found scalar")
  | .merge | .default | .tuple | .other _ =>
    .error (valueError "could not determine a constructor for the tag")

end Huntbook.Yaml
