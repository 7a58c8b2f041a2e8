import Huntbook.Decimal
import Huntbook.Text.Case

/-!
# Patterns

Regular patterns over texts: sets of characters, sequences, choices, repetitions and anchors.
-/

namespace Huntbook.Text

inductive CharSet
  | any
  | one (c : Char)
  | range (low high : Char)
  | digit
  | word
  | blank
  | none (s : CharSet)
  | either (s t : CharSet)
  | noChar

namespace CharSet

def has (fold : Bool) : CharSet → Char → Bool
  | .any, c => c != '\n'
  | .one d, c => if fold then sameFold d c else c == d
  | .range low high, c =>
    let within (c : Char) := low ≤ c && c ≤ high
    if fold then within c || (alike c).any fun d => within d || within (upperAlone d) else within c
  | .digit, c => isDecimal c
  | .word, c => isWord c
  | .blank, c => isBlank c
  | .none s, c => !s.has fold c
  | .either s t, c => s.has fold c || t.has fold c
  | .noChar, _ => false

end CharSet

/-- A regular expression. -/
inductive Pattern
  | empty
  | char (s : CharSet)
  | start
  | finish
  | seq (p q : Pattern)
  | alt (p q : Pattern)
  | repeated (p : Pattern) (least : Nat) (most : Option Nat)

/-- Where matching has come to. -/
structure Place where
  isStart : Bool
  rest : Chars

namespace Pattern

def exactly (step : Place → List Place) : Nat → Place → List Place
  | 0, p => [p]
  | n + 1, p => (step p).flatMap (exactly step n)

def atMost (step : Place → List Place) : Nat → Place → List Place
  | 0, p => [p]
  | n + 1, p => p :: ((step p).filter (·.rest.length < p.rest.length)).flatMap (atMost step n)

def ends (fold : Bool) : Pattern → Place → List Place
  | .empty, p => [p]
  | .char s, p =>
    match p.rest with
    | c :: rest => if s.has fold c then [⟨false, rest⟩] else []
    | [] => []
  | .start, p => if p.isStart then [p] else []
  | .finish, p => if p.rest.isEmpty || p.rest == ['\n'] then [p] else []
  | .seq a b, p => (a.ends fold p).flatMap (b.ends fold)
  | .alt a b, p => a.ends fold p ++ b.ends fold p
  | .repeated a least most, p => (exactly (a.ends fold) least p).flatMap fun q =>
      atMost (a.ends fold) ((most.map (· - least)).getD q.rest.length) q

def searchFrom (fold : Bool) (p : Pattern) (isStart : Bool) : Chars → Bool
  | [] => !(p.ends fold ⟨isStart, []⟩).isEmpty
  | c :: cs => !(p.ends fold ⟨isStart, c :: cs⟩).isEmpty || searchFrom fold p false cs

def search (p : Pattern) (s : String) : Bool := searchFrom false p true s.toList

def searchFold (p : Pattern) (s : String) : Bool := searchFrom true p true s.toList

def all (ps : List Pattern) : Pattern := ps.foldr .seq .empty

def text (s : String) : Pattern := all (s.toList.map fun c => .char (.one c))

def blanks : Pattern := .repeated (.char .blank) 1 none

/-! ## Patterns as texts -/

def escaped? : Char → Option CharSet
  | 'd' => some .digit
  | 'D' => some (.none .digit)
  | 's' => some .blank
  | 'S' => some (.none .blank)
  | 'w' => some .word
  | 'W' => some (.none .word)
  | 'n' => some (.one '\n')
  | 'r' => some (.one '\r')
  | 't' => some (.one '\t')
  | c => if c.isAlphanum then none else some (.one c)

def set? : Chars → Option (CharSet × Chars)
  | [] => none
  | ']' :: rest => some (.noChar, rest)
  | '\\' :: c :: rest => do
    let (s, after) ← set? rest
    return (.either (← escaped? c) s, after)
  | low :: '-' :: high :: rest =>
    if high == ']' then some (.either (.one low) (.one '-'), rest)
    else (set? rest).map fun (s, after) => (.either (.range low high) s, after)
  | c :: rest => (set? rest).map fun (s, after) => (.either (.one c) s, after)

def count? (cs : Chars) : Option (Nat × Option Nat × Chars) :=
  let low := cs.takeWhile Char.isDigit
  match cs.drop low.length with
  | '\x7d' :: rest => some (Decimal.natOf low, some (Decimal.natOf low), rest)
  | ',' :: rest =>
    let high := rest.takeWhile Char.isDigit
    match rest.drop high.length with
    | '\x7d' :: after =>
      some (Decimal.natOf low, if high.isEmpty then none else some (Decimal.natOf high), after)
    | _ => none
  | _ => none

def marked (p : Pattern) (cs : Chars) : Pattern × Chars :=
  match cs with
  | '*' :: rest => (.repeated p 0 none, rest)
  | '+' :: rest => (.repeated p 1 none, rest)
  | '?' :: rest => (.repeated p 0 (some 1), rest)
  | '\x7b' :: rest =>
    match count? rest with
    | some (least, most, rest) => (.repeated p least most, rest)
    | none => (p, cs)
  | cs => (p, cs)

mutual

def choices? : Nat → Chars → Option (Pattern × Chars)
  | 0, _ => none
  | n + 1, cs => do
    let (p, rest) ← items? n cs
    match rest with
    | '|' :: rest => (choices? n rest).map fun (q, after) => (.alt p q, after)
    | rest => return (p, rest)

def items? : Nat → Chars → Option (Pattern × Chars)
  | 0, _ => none
  | n + 1, cs =>
    if cs.head?.all fun c => c == '|' || c == ')' then some (.empty, cs)
    else do
      let (p, rest) ← item? n cs
      let (p, rest) := marked p rest
      (items? n rest).map fun (q, after) => (.seq p q, after)

def item? : Nat → Chars → Option (Pattern × Chars)
  | 0, _ => none
  | n + 1, cs =>
    match cs with
    | '^' :: rest => some (.start, rest)
    | '$' :: rest => some (.finish, rest)
    | '.' :: rest => some (.char .any, rest)
    | '[' :: '^' :: rest => (set? rest).map fun (s, after) => (.char (.none s), after)
    | '[' :: rest => (set? rest).map fun (s, after) => (.char s, after)
    | '\\' :: c :: rest => (escaped? c).map fun s => (.char s, rest)
    | '(' :: '?' :: ':' :: rest => group? n rest
    | '(' :: rest => group? n rest
    | c :: rest => if ['*', '+', '?', '\\'].contains c then none else some (.char (.one c), rest)
    | [] => none

def group? : Nat → Chars → Option (Pattern × Chars)
  | 0, _ => none
  | n + 1, cs => do
    match ← choices? n cs with
    | (p, ')' :: rest) => return (p, rest)
    | _ => none

end

def ofText? (s : String) : Option Pattern := do
  match ← choices? (4 * s.length + 4) s.toList with
  | (p, []) => return p
  | _ => none

end Pattern

end Huntbook.Text
