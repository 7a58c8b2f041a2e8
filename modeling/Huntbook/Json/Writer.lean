import Huntbook.Fault

/-!
# Writing JSON

Values as JSON texts. Characters outside ASCII are escaped, halves of a pair one by one, unless the
text is meant for readers.
-/

namespace Huntbook.Json

def unitEscape (n : Nat) : String := "\\u" ++ Text.hex 4 n

/-- One character inside a string for readers: only what cannot stand there is escaped. -/
def escapeLittle (c : Char) : String :=
  if c == '"' then "\\\""
  else if c == '\\' then "\\\\"
  else if c == '\n' then "\\n"
  else if c == '\r' then "\\r"
  else if c == '\t' then "\\t"
  else if c == '\x0c' then "\\f"
  else if c == '\x08' then "\\b"
  else if c.toNat < 32 then unitEscape c.toNat
  else c.toString

/-- One character in ASCII. `half?` tells which half of a pair a character stands for, if any. -/
def escapeChar (half? : Char → Option Nat) (c : Char) : String :=
  let unit := (half? c).getD c.toNat
  if c.toNat < 127 then escapeLittle c
  else if unit < 0x10000 then unitEscape unit
  else
    let n := c.toNat - 0x10000
    unitEscape (0xD800 + n / 0x400) ++ unitEscape (0xDC00 + n % 0x400)

def stringText (escape : Char → String) (s : String) : String :=
  "\"" ++ String.join (s.toList.map escape) ++ "\""

def doubleText (x : Float) : String :=
  if x.isNaN then "NaN"
  else if x.isInf then if x > 0 then "Infinity" else "-Infinity"
  else Decimal.text x

def keyText : Value → Try String
  | .text s => .ok s
  | .null => .ok "null"
  | .bool b => .ok (if b then "true" else "false")
  | .int n => Decimal.wholeText n
  | .float x => .ok (doubleText x)
  | v => .error (.mismatch (.other
      s!"keys must be str, int, float, bool or None, not {v.kind.shortName}"))

/-- Items between brackets. With `none` they stand on one line; otherwise each stands on a line
    of its own, indented by the given number of blanks. -/
def bracketed (opening closing : String) (indent : Option Nat) (items : Texts) : String :=
  if items.isEmpty then opening ++ closing
  else match indent with
    | none => opening ++ ", ".intercalate items ++ closing
    | some n =>
      let pad (n : Nat) := "\n" ++ String.ofList (List.replicate n ' ')
      opening ++ pad (n + 2) ++ ("," ++ pad (n + 2)).intercalate items ++ pad n ++ closing

mutual

/-- A value; `escape` writes characters, `indent` is the indentation of the line it stands on, if
    lines are broken, and `room` tells how many values may still stand inside each other. -/
def textOf (escape : Char → String) (indent : Option Nat) : Nat → Value → Try String
  | _, .null => .ok "null"
  | _, .bool b => .ok (if b then "true" else "false")
  | _, .int n => Decimal.wholeText n
  | _, .float x => .ok (doubleText x)
  | _, .text s => .ok (stringText escape s)
  | 0, .list _ | 0, .tuple _ | 0, .map _ => .error .tooDeep
  | room + 1, .list items | room + 1, .tuple items =>
    (textsOf escape (indent.map (· + 2)) room items).map (bracketed "[" "]" indent)
  | room + 1, .map entries =>
    (membersOf escape (indent.map (· + 2)) room entries).map (bracketed "\x7b" "\x7d" indent)
  | _, v =>
    .error (.mismatch (.other s!"Object of type {v.kind.shortName} is not JSON serializable"))

def textsOf (escape : Char → String) (indent : Option Nat) (room : Nat) :
    List Value → Try Texts
  | [] => .ok []
  | v :: vs => do
    let s ← textOf escape indent room v
    return s :: (← textsOf escape indent room vs)

def membersOf (escape : Char → String) (indent : Option Nat) (room : Nat) :
    Entries → Try Texts
  | [] => .ok []
  | (k, v) :: rest => do
    let key ← keyText k
    let s ← textOf escape indent room v
    return (stringText escape key ++ ": " ++ s) :: (← membersOf escape indent room rest)

end

def write (v : Value) (room : Nat := deepest) (half? : Char → Option Nat := Text.half?) :
    Try String :=
  textOf (escapeChar half?) none room v

def writeReadable (v : Value) : Try String := textOf escapeLittle (some 0) deepest v

/-! ## JSON as bytes

A JSON text is sent as bytes, in units of one, two or four of them. It starts with two characters
of ASCII, so the zeros among its first bytes tell the units and their order. -/

/-- How a text is coded in bytes. -/
inductive Coding
  | bytes
  | pairs (bigFirst : Bool)
  | quadruples (bigFirst : Bool)
  deriving DecidableEq

def Coding.of : List UInt8 → Coding
  | 0 :: 0 :: _ :: _ :: _ => .quadruples true
  | 0 :: _ :: _ :: _ :: _ => .pairs true
  | _ :: 0 :: 0 :: 0 :: _ => .quadruples false
  | _ :: 0 :: _ :: _ :: _ => .pairs false
  | [0, _] => .pairs true
  | [_, 0] => .pairs false
  | _ => .bytes

def numberOf (data : List UInt8) : Nat := data.foldl (fun n b => n * 256 + b.toNat) 0

def pairUnits? (bigFirst : Bool) : List UInt8 → Option (List Nat)
  | [] => some []
  | a :: b :: rest =>
    (pairUnits? bigFirst rest).map (numberOf (if bigFirst then [a, b] else [b, a]) :: ·)
  | _ => none

def quadrupleUnits? (bigFirst : Bool) : List UInt8 → Option (List Nat)
  | [] => some []
  | a :: b :: c :: d :: rest =>
    (quadrupleUnits? bigFirst rest).map
      (numberOf (if bigFirst then [a, b, c, d] else [d, c, b, a]) :: ·)
  | _ => none

def paired : List Nat → Chars
  | high :: low :: rest =>
    if Text.isHighHalf high && Text.isLowHalf low then
      Char.ofNat (0x10000 + (high - 0xD800) * 0x400 + (low - 0xDC00)) :: paired rest
    else Text.ofUnit high :: paired (low :: rest)
  | [unit] => [Text.ofUnit unit]
  | [] => []

def decode? (data : List UInt8) : Option String :=
  match data with
  | 0xEF :: 0xBB :: 0xBF :: rest => String.fromUTF8? ⟨rest.toArray⟩
  | _ =>
    match Coding.of data with
    | .bytes => String.fromUTF8? ⟨data.toArray⟩
    | .pairs bigFirst => (pairUnits? bigFirst data).map (String.ofList ∘ paired)
    | .quadruples bigFirst => do
      let units ← quadrupleUnits? bigFirst data
      if units.all (· < 0x110000) then some (String.ofList (units.map Text.ofUnit)) else none

end Huntbook.Json
