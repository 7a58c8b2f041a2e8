import Huntbook.Text.Printable
import Huntbook.Decimal

/-!
# Replacement templates

The text that a match is replaced by may hold escapes. A doubled backslash stands for one, some
letters stand for control characters, digits for a character code or for a part of the match, and a
backslash before anything that is no ASCII letter stays.
-/

namespace Huntbook.Text.Template

/-- A piece of a replacement: a character, or all that was matched. -/
inductive Piece
  | char (c : Char)
  | whole
  deriving DecidableEq

/-- Why a text is not legible as a template. -/
inductive Error
  | badEscape (c : Char) (position : Nat)
  | endsInBackslash (position : Nat)
  | noPart (number : Nat) (position : Nat)
  | noOpening (position : Nat)
  | noName (position : Nat)
  | noClosing (position : Nat)
  | badName (name : String) (position : Nat)
  | unknownName (name : String)
  | octalRange (digits : String) (position : Nat)
  deriving DecidableEq

def Error.message : Error → String
  | .badEscape c p => s!"bad escape \\{c} at position {p}"
  | .endsInBackslash p => s!"bad escape (end of pattern) at position {p}"
  | .noPart n p => s!"invalid group reference {n} at position {p}"
  | .noOpening p => s!"missing < at position {p}"
  | .noName p => s!"missing group name at position {p}"
  | .noClosing p => s!"missing >, unterminated name at position {p}"
  | .badName name p => s!"bad character in group name {quoted name} at position {p}"
  | .unknownName name => s!"unknown group name {quoted name}"
  | .octalRange ds p => s!"octal escape value \\{ds} outside of range 0-0o377 at position {p}"

structure Token where
  escaped : Bool
  char : Char
  deriving DecidableEq

def Token.chars (t : Token) : Chars := if t.escaped then ['\\', t.char] else [t.char]

def tokens : Chars → List (Option Token)
  | [] => []
  | ['\\'] => [none]
  | '\\' :: c :: cs => some ⟨true, c⟩ :: tokens cs
  | c :: cs => some ⟨false, c⟩ :: tokens cs

def nextIs (p : Char → Bool) : List (Option Token) → Option Char
  | some ⟨false, c⟩ :: _ => if p c then some c else none
  | _ => none

def isOctal (c : Char) : Bool := '0' ≤ c && c ≤ '7'

def digitsValue (base : Nat) (ds : Chars) : Nat :=
  ds.foldl (fun n c => n * base + (c.toNat - '0'.toNat)) 0

def control? : Char → Option Char
  | 'a' => some '\x07'
  | 'b' => some '\x08'
  | 'f' => some '\x0c'
  | 'n' => some '\n'
  | 'r' => some '\r'
  | 't' => some '\t'
  | 'v' => some '\x0b'
  | '\\' => some '\\'
  | _ => none

def isName : Chars → Bool
  | [] => false
  | c :: cs => isWord c && (decimalValue? c).isNone && !isDigit c && cs.all isWord

def part (name : Chars) (position : Nat) : Except Error Piece :=
  if isName name then .error (.unknownName (String.ofList name))
  else match Decimal.readInt? (String.ofList name) with
    | some (Int.ofNat 0) => .ok .whole
    | some (Int.ofNat n) => .error (.noPart n position)
    | _ => .error (.badName (String.ofList name) position)

def named (ts : List (Option Token)) (position : Nat) : Except Error (Piece × Nat) :=
  match ts with
  | some ⟨false, '<'⟩ :: rest =>
    let name := rest.takeWhile (fun t => t != some ⟨false, '>'⟩ && t.isSome)
    let chars := name.flatMap fun t => (t.map Token.chars).getD []
    match rest.drop name.length with
    | some _ :: _ =>
      if name.isEmpty then .error (.noName (position + 1))
      else (part chars (position + 1)).map (·, name.length + 2)
    | none :: _ => .error (.endsInBackslash (position + 1 + chars.length))
    | [] =>
      if name.isEmpty then .error (.noName (position + 1))
      else .error (.noClosing (position + 1))
  | _ => .error (.noOpening position)

def escape (c : Char) (position : Nat) (ts : List (Option Token)) : Except Error (Piece × Nat) :=
  if c == 'g' then named ts (position + 2)
  else if c == '0' then
    match nextIs isOctal ts, nextIs isOctal (ts.drop 1) with
    | some a, some b => .ok (.char (Char.ofNat (digitsValue 8 [a, b])), 2)
    | some a, none => .ok (.char (Char.ofNat (digitsValue 8 [a])), 1)
    | none, _ => .ok (.char (Char.ofNat 0), 0)
  else if c.isDigit then
    match nextIs Char.isDigit ts with
    | none => .error (.noPart (digitsValue 10 [c]) (position + 1))
    | some a =>
      match nextIs isOctal (ts.drop 1) with
      | some b =>
        if isOctal c && isOctal a then
          if digitsValue 8 [c, a, b] > 255 then
            .error (.octalRange (String.ofList [c, a, b]) position)
          else .ok (.char (Char.ofNat (digitsValue 8 [c, a, b])), 2)
        else .error (.noPart (digitsValue 10 [c, a]) (position + 1))
      | none => .error (.noPart (digitsValue 10 [c, a]) (position + 1))
  else match control? c with
    | some e => .ok (.char e, 0)
    | none => if c.isAlpha then .error (.badEscape c position) else .ok (.char c, 0)

def piecesFrom : Nat → Nat → List (Option Token) → Except Error (List Piece)
  | _, _, [] => .ok []
  | _, position, none :: _ => .error (.endsInBackslash position)
  | skip + 1, position, some t :: ts => piecesFrom skip (position + t.chars.length) ts
  | 0, position, some t :: ts => do
    if ts.head? == some none then throw (.endsInBackslash (position + t.chars.length))
    if t.escaped then
      let (piece, used) ← escape t.char position ts
      let rest ← piecesFrom used (position + 2) ts
      -- An escape that stands for nothing keeps its backslash.
      let kept := (control? t.char).isNone && !t.char.isAlphanum
      return if kept then .char '\\' :: piece :: rest else piece :: rest
    else
      let rest ← piecesFrom 0 (position + 1) ts
      return .char t.char :: rest

def parse (template : Chars) : Except Error (List Piece) := piecesFrom 0 0 (tokens template)

def expand (pieces : List Piece) (found : Chars) : Chars :=
  pieces.flatMap fun
    | .char c => [c]
    | .whole => found

end Huntbook.Text.Template
