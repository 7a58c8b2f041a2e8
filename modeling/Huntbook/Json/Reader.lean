import Huntbook.Value.Basic

/-!
# Reading JSON

A JSON text as a value, or the first place where it stops being one. Numbers without fraction and
exponent are whole numbers, others are doubles; `NaN` and the infinities are read.
-/

namespace Huntbook.Json

/-- What should have come next. -/
inductive Expectation
  | value
  | propertyName
  | colon
  | comma
  | nothing
  | closedString
  | noControl
  | escape
  | unicodeEscape
  deriving DecidableEq

def Expectation.message : Expectation → String
  | .value => "Expecting value"
  | .propertyName => "Expecting property name enclosed in double quotes"
  | .colon => "Expecting ':' delimiter"
  | .comma => "Expecting ',' delimiter"
  | .nothing => "Extra data"
  | .closedString => "Unterminated string starting at"
  | .noControl => "Invalid control character at"
  | .escape => "Invalid \\escape"
  | .unicodeEscape => "Invalid \\uXXXX escape"

/-- Why reading stops, with what is left of the text. -/
inductive Failure
  | unmet (expected : Expectation) (left : Chars)
  | longNumber (digits : Nat)
  | tooDeep

structure Error where
  expected : Expectation
  (position line column : Nat)
  deriving DecidableEq

def Error.message (e : Error) : String :=
  s!"{e.expected.message}: line {e.line} column {e.column} (char {e.position})"

/-- Why a text cannot be read. -/
inductive Trouble
  | malformed (e : Error)
  | longNumber (digits : Nat)
  | tooDeep

def Error.ofRest (expected : Expectation) (left text : Chars) : Error :=
  let position := text.length - left.length
  let before := text.take position
  { expected := expected
    position := position
    line := before.count '\n' + 1
    column := (before.reverse.takeWhile (· != '\n')).length + 1 }

def Failure.toTrouble (text : Chars) : Failure → Trouble
  | .unmet expected left => .malformed (Error.ofRest expected left text)
  | .longNumber digits => .longNumber digits
  | .tooDeep => .tooDeep

/-- How many values may stand inside each other if nothing else is said. The room is what the calls
    that are under way have left of the stack, so reading and writing take it as an argument. -/
def deepest : Nat := 970

def isSpace (c : Char) : Bool := c == ' ' || c == '\t' || c == '\n' || c == '\r'

def skip (cs : Chars) : Chars := cs.dropWhile isSpace

def hexValue? (c : Char) : Option Nat :=
  if c.isDigit then some (c.toNat - '0'.toNat)
  else if 'a' ≤ c && c ≤ 'f' then some (c.toNat - 'a'.toNat + 10)
  else if 'A' ≤ c && c ≤ 'F' then some (c.toNat - 'A'.toNat + 10)
  else none

def hex4? : Chars → Option (Nat × Chars)
  | a :: b :: c :: d :: rest => do
    let a ← hexValue? a
    let b ← hexValue? b
    let c ← hexValue? c
    let d ← hexValue? d
    return (((a * 16 + b) * 16 + c) * 16 + d, rest)
  | _ => none

def escaped? : Char → Option Char
  | '"' => some '"'
  | '\\' => some '\\'
  | '/' => some '/'
  | 'b' => some '\x08'
  | 'f' => some '\x0c'
  | 'n' => some '\n'
  | 'r' => some '\r'
  | 't' => some '\t'
  | _ => none

/-- Reads the characters of a string up to its closing quote. `start` is the text from the
    opening quote on, and `n` bounds the number of characters. -/
def stringFrom (start : Chars) : Nat → Chars → Chars →
    Except Failure (Chars × Chars)
  | 0, _, _ => .error (.unmet .closedString start)
  | _, _, [] => .error (.unmet .closedString start)
  | _, acc, '"' :: rest => .ok (acc.reverse, rest)
  | _, _, ['\\'] => .error (.unmet .closedString start)
  | n + 1, acc, '\\' :: 'u' :: rest =>
    let here := '\\' :: 'u' :: rest
    -- The digits must be followed by something, at least by the closing quote.
    if (rest.drop 4).isEmpty then .error (.unmet .unicodeEscape ('u' :: rest))
    else match hex4? rest with
      | none => .error (.unmet .unicodeEscape (here.drop 1))
      | some (high, after) =>
        if Text.isHighHalf high && !(after.drop 6).isEmpty && ['\\', 'u'].isPrefixOf after then
          match hex4? (after.drop 2) with
          | none => .error (.unmet .unicodeEscape (after.drop 1))
          | some (low, after') =>
            if Text.isLowHalf low then
              let code := 0x10000 + (high - 0xD800) * 0x400 + (low - 0xDC00)
              stringFrom start n (Char.ofNat code :: acc) after'
            else stringFrom start n (Text.ofUnit high :: acc) after
        else stringFrom start n (Text.ofUnit high :: acc) after
  | n + 1, acc, '\\' :: c :: rest =>
    match escaped? c with
    | none => .error (.unmet .escape ('\\' :: c :: rest))
    | some e => stringFrom start n (e :: acc) rest
  | n + 1, acc, c :: rest =>
    if c.toNat ≤ 0x1f then .error (.unmet .noControl (c :: rest))
    else stringFrom start n (c :: acc) rest

def string (rest : Chars) : Except Failure (String × Chars) := do
  let (cs, rest) ← stringFrom ('"' :: rest) (rest.length + 1) [] rest
  return (String.ofList cs, rest)

def signOf : Chars → Bool × Chars
  | '-' :: rest => (true, rest)
  | rest => (false, rest)

def wholeOf : Chars → Chars
  | '0' :: _ => ['0']
  | cs => cs.takeWhile Char.isDigit

def fractionOf : Chars → Chars
  | '.' :: rest => rest.takeWhile Char.isDigit
  | _ => []

def number? (cs : Chars) : Option (Except Failure (Value × Chars)) :=
  let (negative, body) := signOf cs
  let whole := wholeOf body
  if whole.isEmpty then none
  else
    let rest := body.drop whole.length
    let fraction := fractionOf rest
    let rest' := if fraction.isEmpty then rest else rest.drop (fraction.length + 1)
    match Decimal.exponent? rest' with
    | none =>
      if !fraction.isEmpty then
        let x := Decimal.doubleOf (Decimal.natOf (whole ++ fraction)) (-fraction.length)
        some (.ok (.float (if negative then -x else x), rest'))
      else if Decimal.isLong 10 whole.length then some (.error (.longNumber whole.length))
      else
        let n : Int := Decimal.natOf whole
        some (.ok (.int (if negative then -n else n), rest))
    | some (e, rest'') =>
      let x := Decimal.doubleOf (Decimal.natOf (whole ++ fraction)) (e - fraction.length)
      some (.ok (.float (if negative then -x else x), rest''))

def word? (cs : Chars) : Option (Value × Chars) :=
  let words : Fields :=
    [("null", .null), ("true", .bool true), ("false", .bool false), ("NaN", .float (0.0 / 0.0)),
     ("Infinity", .float (1.0 / 0.0)), ("-Infinity", .float (-1.0 / 0.0))]
  (words.find? fun w => w.1.toList.isPrefixOf cs).map fun w => (w.2, cs.drop w.1.length)

mutual

/-- Reads a value; `n` bounds the nesting and the length, and `room` tells how many values may
    still stand inside each other. -/
def valueFrom : Nat → Nat → Chars → Except Failure (Value × Chars)
  | 0, _, cs => .error (.unmet .value cs)
  | n + 1, room, cs =>
    match cs with
    | '"' :: rest => do
      let (s, rest) ← string rest
      return (.text s, rest)
    | '\x7b' :: rest =>
      if room == 0 then .error .tooDeep
      else match skip rest with
        | '\x7d' :: rest => .ok (.map [], rest)
        | rest => membersFrom n (room - 1) [] rest
    | '[' :: rest =>
      if room == 0 then .error .tooDeep
      else match skip rest with
        | ']' :: rest => .ok (.list [], rest)
        | rest => itemsFrom n (room - 1) [] rest
    | cs =>
      match word? cs with
      | some found => .ok found
      | none => match number? cs with
        | some found => found
        | none => .error (.unmet .value cs)

def membersFrom : Nat → Nat → Entries → Chars →
    Except Failure (Value × Chars)
  | 0, _, _, cs => .error (.unmet .value cs)
  | n + 1, room, acc, cs =>
    match cs with
    | '"' :: rest => do
      let (name, rest) ← string rest
      match skip rest with
      | ':' :: rest => do
        let (v, rest) ← valueFrom n room (skip rest)
        let acc := Value.putField name v acc
        match skip rest with
        | '\x7d' :: rest => return (.map acc, rest)
        | ',' :: rest => membersFrom n room acc (skip rest)
        | rest => .error (.unmet .comma rest)
      | rest => .error (.unmet .colon rest)
    | cs => .error (.unmet .propertyName cs)

def itemsFrom : Nat → Nat → List Value → Chars → Except Failure (Value × Chars)
  | 0, _, _, cs => .error (.unmet .value cs)
  | n + 1, room, acc, cs => do
    let (v, rest) ← valueFrom n room cs
    match skip rest with
    | ']' :: rest => return (.list (v :: acc).reverse, rest)
    | ',' :: rest => itemsFrom n room (v :: acc) (skip rest)
    | rest => .error (.unmet .comma rest)

end

def readList (text : Chars) (room : Nat) : Except Failure Value := do
  let (v, rest) ← valueFrom (2 * text.length + 2) room (skip text)
  match skip rest with
  | [] => return v
  | rest => .error (.unmet .nothing rest)

def read (text : String) (room : Nat := deepest) : Except Trouble Value :=
  (readList text.toList room).mapError (Failure.toTrouble text.toList)

end Huntbook.Json
