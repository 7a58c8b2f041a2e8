import Huntbook.Fault

/-!
# The text of scalars

Reading scalars in their three kinds: unquoted, quoted and block. Each reader gives the text of the
scalar and the place after it.
-/

namespace Huntbook.Yaml

/-! ## Cursors

A place in a YAML text: what is left of it, and its index, line and column. -/

def isLineBreak (c : Char) : Bool :=
  c == '\n' || c == '\r' || c.toNat == 0x85 || c.toNat == 0x2028 || c.toNat == 0x2029

def isLineEnd (c : Option Char) : Bool := c.all isLineBreak

def isSpaceOrEnd (c : Option Char) : Bool := c.all fun c => c == ' ' || isLineBreak c

def isWhiteOrEnd (c : Option Char) : Bool :=
  c.all fun c => c == ' ' || c == '\t' || isLineBreak c

def isNameChar (c : Char) : Bool := c.isAlphanum || c == '-' || c == '_'

/-- What is left of a text, and where it starts. -/
structure Cursor where
  rest : Chars
  (index line column : Nat)

namespace Cursor

def start (text : Chars) : Cursor := ⟨text, 0, 0, 0⟩

def peek (c : Cursor) : Option Char := c.rest.head?

def peekAt (c : Cursor) (n : Nat) : Option Char := (c.rest.drop n).head?

def next (c : Cursor) : Cursor :=
  match c.rest with
  | [] => c
  | ch :: rest =>
    if isLineBreak ch && !(ch == '\r' && rest.head? == some '\n') then
      ⟨rest, c.index + 1, c.line + 1, 0⟩
    else if ch.toNat == 0xfeff then ⟨rest, c.index + 1, c.line, c.column⟩
    else ⟨rest, c.index + 1, c.line, c.column + 1⟩

def skip : Nat → Cursor → Cursor
  | 0, c => c
  | n + 1, c => skip n c.next

def span (c : Cursor) (p : Char → Bool) : Chars × Cursor :=
  let found := c.rest.takeWhile p
  (found, c.skip found.length)

def skipWhile (c : Cursor) (p : Char → Bool) : Cursor := (c.span p).2

/-- The line break at the cursor, if there is one, and the place after it. All but the line and
    paragraph separators count as line feeds. -/
def lineBreak (c : Cursor) : Option Char × Cursor :=
  match c.rest with
  | '\r' :: '\n' :: _ => (some '\n', c.skip 2)
  | ch :: _ =>
    if ch == '\r' || ch == '\n' || ch.toNat == 0x85 then (some '\n', c.next)
    else if isLineBreak ch then (some ch, c.next)
    else (none, c)
  | [] => (none, c)

def hasMarker (c : Cursor) (m : Char) : Bool :=
  [m, m, m].isPrefixOf c.rest && isWhiteOrEnd (c.peekAt 3)

def atMarker (c : Cursor) : Bool := c.hasMarker '-' || c.hasMarker '.'

def skipComment (c : Cursor) : Cursor :=
  if c.peek == some '#' then c.skipWhile (fun ch => !isLineBreak ch) else c

end Cursor

def tokenError (problem : String) : Fault := .yaml ⟨.tokens, problem⟩

def foldGap (lineBreak : Char) (breaks : Chars) : Chars :=
  if lineBreak != '\n' then lineBreak :: breaks
  else if breaks.isEmpty then [' '] else breaks

/-! ### Unquoted scalars -/

/-- The line breaks after the first one of a gap, with the blanks between them; nothing if a
    document marker follows one. -/
def plainBreaks : Nat → Cursor → Option Chars × Cursor
  | 0, c => (some [], c)
  | n + 1, c =>
    match c.peek with
    | some ' ' => plainBreaks n c.next
    | _ =>
      match c.lineBreak with
      | (none, c) => (some [], c)
      | (some b, c) =>
        if c.atMarker then (none, c)
        else
          let (more, c) := plainBreaks n c
          (more.map (b :: ·), c)

/-- The blanks between two words. -/
structure PlainGap where
  chars : Chars
  after : Cursor
  broken : Bool

def plainGap (c : Cursor) : PlainGap :=
  let (blanks, c) := c.span (· == ' ')
  match c.lineBreak with
  | (none, c) => ⟨blanks, c, false⟩
  | (some b, c) =>
    if c.atMarker then ⟨[], c, true⟩
    else match plainBreaks (c.rest.length + 1) c with
      | (none, c) => ⟨[], c, true⟩
      | (some breaks, c) => ⟨foldGap b breaks, c, true⟩

def plainWord (inFlow : Bool) : Chars → Chars
  | [] => []
  | ch :: rest =>
    if isWhiteOrEnd (some ch) then []
    else if ch == ':' && (isWhiteOrEnd rest.head?
        || (inFlow && rest.head?.any (",[]\x7b\x7d".toList.contains ·))) then []
    else if inFlow && ",?[]\x7b\x7d".toList.contains ch then []
    else ch :: plainWord inFlow rest

structure PlainScalar where
  text : Chars
  after : Cursor
  broken : Bool

def plainWords (inFlow : Bool) (indent : Nat) : Nat → Chars → PlainGap → PlainScalar
  | 0, _, gap => ⟨[], gap.after, gap.broken⟩
  | n + 1, before, gap =>
    let c := gap.after
    if c.peek == some '#' then ⟨[], c, gap.broken⟩
    else
      let word := plainWord inFlow c.rest
      if word.isEmpty then ⟨[], c, gap.broken⟩
      else
        let next := plainGap (c.skip word.length)
        let more :=
          if next.chars.isEmpty || next.after.peek == some '#'
              || (!inFlow && next.after.column < indent) then
            ⟨[], next.after, next.broken⟩
          else plainWords inFlow indent n next.chars next
        { more with text := before ++ word ++ more.text }

def plainScalar (inFlow : Bool) (indent : Nat) (c : Cursor) : PlainScalar :=
  plainWords inFlow indent (c.rest.length + 1) [] ⟨[], c, false⟩

/-! ### Quoted scalars -/

def escapeChars : List (Char × Nat) :=
  [('0', 0), ('a', 7), ('b', 8), ('t', 9), ('\t', 9), ('n', 10), ('v', 11), ('f', 12), ('r', 13),
   ('e', 27), (' ', 32), ('"', 34), ('\\', 92), ('/', 47), ('N', 0x85), ('_', 0xa0),
   ('L', 0x2028), ('P', 0x2029)]

def escapeDigits (c : Char) : Option Nat :=
  if c == 'x' then some 2 else if c == 'u' then some 4 else if c == 'U' then some 8 else none

def quotedBreaks : Nat → Cursor → Try (Chars × Cursor)
  | 0, c => .ok ([], c)
  | n + 1, c =>
    if c.atMarker then .error (tokenError "found unexpected document separator")
    else
      let c := c.skipWhile fun ch => ch == ' ' || ch == '\t'
      match c.lineBreak with
      | (none, c) => .ok ([], c)
      | (some b, c) => do
        let (more, c) ← quotedBreaks n c
        return (b :: more, c)

def quotedGap (c : Cursor) : Try (Chars × Cursor) :=
  let (blanks, c) := c.span fun ch => ch == ' ' || ch == '\t'
  match c.peek, c.lineBreak with
  | none, _ => .error (tokenError "found unexpected end of stream")
  | _, (none, c) => .ok (blanks, c)
  | _, (some b, c) => do
    let (breaks, c) ← quotedBreaks (c.rest.length + 1) c
    return (foldGap b breaks, c)

def quotedEscape (c : Cursor) : Try (Chars × Cursor) :=
  match c.peek with
  | none => .error (tokenError "found unknown escape character")
  | some ch =>
    match escapeChars.find? (·.1 == ch), escapeDigits ch with
    | some (_, code), _ => .ok ([Char.ofNat code], c.next)
    | none, some digits =>
      let ds := c.next.rest.take digits
      if ds.length == digits && ds.all (fun d => (Json.hexValue? d).isSome) then
        let code := ds.foldl (fun n d => n * 16 + (Json.hexValue? d).getD 0) 0
        if code > 0x7fffffff then .error (.overflow "Python int too large to convert to C int")
        else if code > 0x10ffff then .error (.refused "chr() arg not in range(0x110000)")
        else .ok ([Text.ofUnit code], c.next.skip digits)
      else .error (tokenError s!"expected escape sequence of {digits} hexdecimal numbers")
    | none, none =>
      match c.lineBreak with
      | (some _, c) => quotedBreaks (c.rest.length + 1) c
      | (none, _) => .error (tokenError s!"found unknown escape character {ch}")

def isQuotedPlain (ch : Char) : Bool :=
  ch != '\'' && ch != '"' && ch != '\\' && !isWhiteOrEnd (some ch)

def quotedFrom (double : Bool) : Nat → Cursor → Try (Chars × Cursor)
  | 0, _ => .error (tokenError "found unexpected end of stream")
  | n + 1, c => do
    let quote := if double then '"' else '\''
    let (chars, c) ← match c.peek with
      | none => .error (tokenError "found unexpected end of stream")
      | some ch =>
        if isQuotedPlain ch then .ok (c.span isQuotedPlain)
        else if !double && ch == '\'' && c.peekAt 1 == some '\'' then .ok (['\''], c.skip 2)
        else if ch == quote then return ([], c.next)
        else if ch == '\'' || ch == '"' then .ok ([ch], c.next)
        else if ch == '\\' then if double then quotedEscape c.next else .ok (['\\'], c.next)
        else quotedGap c
    let (more, c) ← quotedFrom double n c
    return (chars ++ more, c)

def quotedScalar (double : Bool) (c : Cursor) : Try (Chars × Cursor) :=
  quotedFrom double (c.rest.length + 1) c.next

/-! ### Block scalars -/

/-- What becomes of the last line breaks. -/
inductive Chomping
  | strip | clip | keep
  deriving DecidableEq

def blockMarks (c : Cursor) : Try (Chomping × Option Nat × Cursor) := do
  let chomp? (ch : Option Char) : Option Chomping :=
    if ch == some '+' then some .keep else if ch == some '-' then some .strip else none
  let digit (c : Cursor) : Try (Option Nat × Cursor) :=
    match c.peek with
    | some d =>
      if d.isDigit then
        if d == '0' then .error (tokenError "expected indentation indicator in the range 1-9")
        else .ok (some (d.toNat - '0'.toNat), c.next)
      else .ok (none, c)
    | none => .ok (none, c)
  let (chomping, increment, c) ← match chomp? c.peek with
    | some chomping => do
      let (increment, c) ← digit c.next
      pure (chomping, increment, c)
    | none => do
      let (increment, c) ← digit c
      match increment, chomp? c.peek with
      | some _, some chomping => pure (chomping, increment, c.next)
      | _, _ => pure (Chomping.clip, increment, c)
  if isSpaceOrEnd c.peek then return (chomping, increment, c)
  else throw (tokenError "expected chomping or indentation indicators")

def ignoredLine (c : Cursor) : Try Cursor :=
  let c := (c.skipWhile (· == ' ')).skipComment
  if isLineEnd c.peek then .ok c.lineBreak.2
  else .error (tokenError "expected a comment or a line break")

def blockStart : Nat → Nat → Cursor → Chars × Nat × Cursor
  | 0, deepest, c => ([], deepest, c)
  | n + 1, deepest, c =>
    if c.peek == some ' ' then
      let c := c.next
      blockStart n (max deepest c.column) c
    else match c.lineBreak with
      | (none, c) => ([], deepest, c)
      | (some b, c) =>
        let (more, deepest, c) := blockStart n deepest c
        (b :: more, deepest, c)

def blanksTo (indent : Nat) (c : Cursor) : Cursor :=
  c.skip ((c.rest.take (indent - c.column)).takeWhile (· == ' ')).length

def blockBreaks (indent : Nat) : Nat → Cursor → Chars × Cursor
  | 0, c => ([], c)
  | n + 1, c =>
    match (blanksTo indent c).lineBreak with
    | (none, c) => ([], c)
    | (some b, c) =>
      let (more, c) := blockBreaks indent n c
      (b :: more, c)

def blockLines (folded : Bool) (chomping : Chomping) (indent : Nat) :
    Nat → Chars → Option Char → Cursor → Chars × Cursor
  | 0, _, _, c => ([], c)
  | n + 1, breaks, lineBreak, c =>
    if c.column == indent && c.peek.isSome then
      let isText (ch : Option Char) := ch != some ' ' && ch != some '\t'
      let startsText := isText c.peek
      let (line, c) := c.span fun ch => !isLineBreak ch
      let (lineBreak, c) := c.lineBreak
      let (next, c) := blockBreaks indent (c.rest.length + 1) c
      let joint :=
        if c.column == indent && c.peek.isSome then
          if folded && lineBreak == some '\n' && startsText && isText c.peek then
            if next.isEmpty then [' '] else []
          else lineBreak.toList
        else []
      let (more, c) := blockLines folded chomping indent n next lineBreak c
      (breaks ++ line ++ joint ++ more, c)
    else
      -- What is left of the line breaks at the end.
      let tail := (if chomping == .strip then [] else lineBreak.toList)
        ++ (if chomping == .keep then breaks else [])
      (tail, c)

def blockScalar (folded : Bool) (indent : Int) (c : Cursor) :
    Try (Chars × Cursor) := do
  let (chomping, increment, c) ← blockMarks c.next
  let c ← ignoredLine c
  let least := (max (indent + 1) 1).toNat
  match increment with
  | none =>
    let (breaks, deepest, c) := blockStart (c.rest.length + 1) 0 c
    return blockLines folded chomping (max least deepest) (c.rest.length + 1) breaks none c
  | some k =>
    let indent := least + k - 1
    let (breaks, c) := blockBreaks indent (c.rest.length + 1) c
    return blockLines folded chomping indent (c.rest.length + 1) breaks none c

end Huntbook.Yaml
