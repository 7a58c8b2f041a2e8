import Huntbook.Yaml.ScalarText

/-!
# Tokens

A document as a list of tokens. Indentation becomes explicit: blocks are opened and closed by tokens
of their own.
-/

namespace Huntbook.Yaml

inductive Token
  | streamEnd
  | version (major : Nat)
  | tagHandle (handle start : String)
  | directive
  | documentStart
  | documentEnd
  | blockSeq
  | blockMap
  | blockEnd
  | openSeq
  | closeSeq
  | openMap
  | closeMap
  | entry
  | comma
  | key
  | value
  | reference (name : String)
  | anchor (name : String)
  | tag (handle : Option String) (suffix : String)
  | scalar (text : String) (isPlain : Bool)
  deriving DecidableEq

/-- Where a key may start, which only a later colon tells. -/
structure PendingKey where
  depth : Int
  place : Nat
  required : Bool
  (index line column : Nat)

/-- How far the text has been scanned. -/
structure Scan where
  cursor : Cursor
  depth : Int := 0
  indent : Int := -1
  outer : List Int := []
  keyAllowed : Bool := true
  pending : List PendingKey := []
  found : List Token := []
  done : Bool := false

namespace Scan

def inFlow (s : Scan) : Bool := s.depth != 0

def add (t : Token) (s : Scan) : Scan := { s with found := t :: s.found }

def skip (n : Nat) (s : Scan) : Scan := { s with cursor := s.cursor.skip n }

def noColon : Fault := tokenError "could not find expected ':'"

def isStale (s : Scan) (k : PendingKey) : Bool :=
  k.line != s.cursor.line || s.cursor.index - k.index > 1024

def dropStale (s : Scan) : Try Scan :=
  if s.pending.any fun k => s.isStale k && k.required then .error noColon
  else .ok { s with pending := s.pending.filter fun k => !s.isStale k }

def dropKey (s : Scan) : Try Scan :=
  if s.pending.any fun k => k.depth == s.depth && k.required then .error noColon
  else .ok { s with pending := s.pending.filter fun k => k.depth != s.depth }

def markKey (s : Scan) : Try Scan :=
  if s.keyAllowed then do
    let s ← s.dropKey
    let k : PendingKey := ⟨s.depth, s.found.length, !s.inFlow && s.indent == s.cursor.column,
      s.cursor.index, s.cursor.line, s.cursor.column⟩
    return { s with pending := k :: s.pending }
  else .ok s

def closeBlocks (column : Int) (s : Scan) : Scan :=
  if s.inFlow then s
  else
    let rec close (indent : Int) (found : List Token) : List Int → Int × List Int × List Token
      | [] => (indent, [], found)
      | i :: outer =>
        if indent > column then close i (.blockEnd :: found) outer else (indent, i :: outer, found)
    let (indent, outer, found) := close s.indent s.found s.outer
    { s with indent, outer, found }

def openBlock (column : Nat) (t : Token) (s : Scan) : Scan :=
  if s.indent < column then
    { s.add t with outer := s.indent :: s.outer, indent := column }
  else s

def skipToToken : Nat → Scan → Scan
  | 0, s => s
  | n + 1, s =>
    let c := (s.cursor.skipWhile (· == ' ')).skipComment
    match c.lineBreak with
    | (none, c) => { s with cursor := c }
    | (some _, c) => skipToToken n { s with cursor := c, keyAllowed := s.keyAllowed || !s.inFlow }

/-! ### Directives, names and tags -/

def nameAt (c : Cursor) : Try (String × Cursor) :=
  let (name, after) := c.span isNameChar
  if name.isEmpty then .error (tokenError "expected alphabetic or numeric character")
  else .ok (String.ofList name, after)

def atSpace (c : Cursor) : Try Cursor :=
  if isSpaceOrEnd c.peek then .ok c else .error (tokenError "expected ' '")

def numberAt (c : Cursor) : Try (Nat × Cursor) :=
  let (digits, after) := c.span Char.isDigit
  if digits.isEmpty then .error (tokenError "expected a digit")
  else (Fault.readBase 10 digits).map fun n => (n.toNat, after)

def escapedBytes : Nat → Cursor → Try (List UInt8 × Cursor)
  | 0, c => .ok ([], c)
  | n + 1, c =>
    if c.peek == some '%' then
      match (c.peekAt 1).bind Json.hexValue?, (c.peekAt 2).bind Json.hexValue? with
      | some hi, some lo => do
        let (more, c) ← escapedBytes n (c.skip 3)
        return (UInt8.ofNat (hi * 16 + lo) :: more, c)
      | _, _ => .error (tokenError "expected URI escape sequence of 2 hexdecimal numbers")
    else .ok ([], c)

def isTagChar (c : Char) : Bool := c.isAlphanum || "-;/?:@&=+$,_.!~*'()[]".toList.contains c

def tagTextFrom : Nat → Cursor → Try (Chars × Cursor)
  | 0, c => .ok ([], c)
  | n + 1, c =>
    if c.peek == some '%' then do
      let (data, c) ← escapedBytes (c.rest.length + 1) c
      match String.fromUTF8? ⟨data.toArray⟩ with
      | none => throw (tokenError "invalid bytes in a tag")
      | some s => do
        let (more, c) ← tagTextFrom n c
        return (s.toList ++ more, c)
    else
      let (chars, c) := c.span isTagChar
      if chars.isEmpty then .ok ([], c)
      else do
        let (more, c) ← tagTextFrom n c
        return (chars ++ more, c)

def tagText (c : Cursor) : Try (String × Cursor) := do
  let (chars, after) ← tagTextFrom (c.rest.length + 1) c
  if after.index == c.index then throw (tokenError "expected URI")
  else return (String.ofList chars, after)

def tagHandle (c : Cursor) : Try (String × Cursor) :=
  if c.peek != some '!' then .error (tokenError "expected '!'")
  else if c.peekAt 1 == some ' ' then .ok ("!", c.next)
  else
    let (name, after) := c.next.span isNameChar
    if after.peek == some '!' then .ok ("!" ++ String.ofList name ++ "!", after.next)
    else .error (tokenError "expected '!'")

def tagAt (c : Cursor) : Try (Token × Cursor) := do
  let (t, c) ←
    if c.peekAt 1 == some '<' then do
      let (suffix, c) ← tagText (c.skip 2)
      if c.peek == some '>' then pure (Token.tag none suffix, c.next)
      else throw (tokenError "expected '>'")
    else if isWhiteOrEnd (c.peekAt 1) then pure (.tag none "!", c.next)
    else do
      let word := c.next.rest.takeWhile fun ch => !isSpaceOrEnd (some ch)
      let (handle, c) ← if word.contains '!' then tagHandle c else pure ("!", c.next)
      let (suffix, c) ← tagText c
      pure (.tag (some handle) suffix, c)
  return (t, ← atSpace c)

def directiveAt (c : Cursor) : Try (Token × Cursor) := do
  let skipSpaces (c : Cursor) := c.skipWhile (· == ' ')
  let (name, c) ← nameAt c.next
  let c ← atSpace c
  let (t, c) ←
    if name == "YAML" then do
      let (major, c) ← numberAt (skipSpaces c)
      if c.peek != some '.' then throw (tokenError "expected a digit or '.'")
      let (_, c) ← numberAt c.next
      pure (Token.version major, ← atSpace c)
    else if name == "TAG" then do
      let (handle, c) ← tagHandle (skipSpaces c)
      if c.peek != some ' ' then throw (tokenError "expected ' '")
      let (start, c) ← tagText (skipSpaces c)
      pure (.tagHandle handle start, ← atSpace c)
    else pure (.directive, c.skipWhile fun ch => !isLineBreak ch)
  return (t, ← ignoredLine c)

def anchorAt (c : Cursor) : Try (String × Cursor) := do
  let (name, c) ← nameAt c
  if isWhiteOrEnd c.peek || c.peek.any ("?:,]\x7d%@\x60".toList.contains ·) then return (name, c)
  else throw (tokenError "expected alphabetic or numeric character")

/-! ### One token after the other -/

def readTopLevel (s : Scan) : Try Scan := do
  let s ← (s.closeBlocks (-1)).dropKey
  return { s with keyAllowed := false }

def readOpen (t : Token) (s : Scan) : Try Scan := do
  let s ← s.markKey
  return ({ s with depth := s.depth + 1, keyAllowed := true }.skip 1).add t

def readClose (t : Token) (s : Scan) : Try Scan := do
  let s ← s.dropKey
  return ({ s with depth := s.depth - 1, keyAllowed := false }.skip 1).add t

def readComma (s : Scan) : Try Scan := do
  let s ← s.dropKey
  return ({ s with keyAllowed := true }.skip 1).add .comma

def readMark (block mark : Token) (problem : String) (keyAfter : Bool) (s : Scan) :
    Try Scan := do
  let s ←
    if s.inFlow then pure s
    else if s.keyAllowed then pure (s.openBlock s.cursor.column block)
    else throw (tokenError problem)
  let s ← s.dropKey
  return ({ s with keyAllowed := keyAfter }.skip 1).add mark

def insertBehind (t : List Token) (n : Nat) (found : List Token) : List Token :=
  let newer := found.length - n
  found.take newer ++ t ++ found.drop newer

def spliceKey (k : PendingKey) (s : Scan) : Scan :=
  let s := { s with
    pending := s.pending.filter fun p => p.depth != s.depth
    keyAllowed := false }
  let column : Int := k.column
  if !s.inFlow && s.indent < column then
    { s with
      found := insertBehind [.key, .blockMap] k.place s.found
      outer := s.indent :: s.outer
      indent := column }
  else { s with found := insertBehind [.key] k.place s.found }

def readValue (s : Scan) : Try Scan :=
  match s.pending.find? fun k => k.depth == s.depth with
  | some k => .ok (((s.spliceKey k).skip 1).add .value)
  | none => s.readMark .blockMap .value "mapping values are not allowed here" (!s.inFlow)

def readName (read : Cursor → Try (Token × Cursor)) (s : Scan) : Try Scan := do
  let s ← s.markKey
  let (t, c) ← read s.cursor
  return { s with cursor := c, keyAllowed := false }.add t

def readBlock (folded : Bool) (s : Scan) : Try Scan := do
  let s ← s.dropKey
  let (text, c) ← blockScalar folded s.indent s.cursor
  return { s with cursor := c, keyAllowed := true }.add (.scalar (String.ofList text) false)

def readQuoted (double : Bool) (s : Scan) : Try Scan :=
  s.readName fun c => do
    let (text, c) ← quotedScalar double c
    return (.scalar (String.ofList text) false, c)

def readPlain (s : Scan) : Try Scan := do
  let s ← s.markKey
  let r := plainScalar s.inFlow (s.indent + 1).toNat s.cursor
  return { s with cursor := r.after, keyAllowed := r.broken }.add
    (.scalar (String.ofList r.text) true)

def startsPlain (inFlow : Bool) (ch : Char) (next : Option Char) : Bool :=
  if isWhiteOrEnd (some ch) then false
  else if ch == '-' then !isWhiteOrEnd next
  else if ch == '?' || ch == ':' then !inFlow && !isWhiteOrEnd next
  else !",[]\x7b\x7d#&*!|>'\"%@\x60".toList.contains ch

def readToken (s : Scan) : Try Scan :=
  match s.cursor.peek with
  | none => do
    let s ← s.readTopLevel
    return { s.add .streamEnd with pending := [], done := true }
  | some ch =>
    let next := s.cursor.peekAt 1
    let marks := isWhiteOrEnd next
    if ch == '%' && s.cursor.column == 0 then do
      let s ← s.readTopLevel
      let (t, c) ← directiveAt s.cursor
      return { s with cursor := c }.add t
    else if s.cursor.column == 0 && s.cursor.hasMarker '-' then
      return ((← s.readTopLevel).skip 3).add .documentStart
    else if s.cursor.column == 0 && s.cursor.hasMarker '.' then
      return ((← s.readTopLevel).skip 3).add .documentEnd
    else match ch with
      | '[' => s.readOpen .openSeq
      | '\x7b' => s.readOpen .openMap
      | ']' => s.readClose .closeSeq
      | '\x7d' => s.readClose .closeMap
      | ',' => s.readComma
      | '*' => s.readName fun c => do
          let (name, c) ← anchorAt c.next
          return (.reference name, c)
      | '&' => s.readName fun c => do
          let (name, c) ← anchorAt c.next
          return (.anchor name, c)
      | '!' => s.readName tagAt
      | '\'' => s.readQuoted false
      | '"' => s.readQuoted true
      | ch =>
        if ch == '-' && marks then
          s.readMark .blockSeq .entry "sequence entries are not allowed here" true
        else if ch == '?' && (s.inFlow || marks) then
          s.readMark .blockMap .key "mapping keys are not allowed here" (!s.inFlow)
        else if ch == ':' && (s.inFlow || marks) then s.readValue
        else if ch == '|' && !s.inFlow then s.readBlock false
        else if ch == '>' && !s.inFlow then s.readBlock true
        else if startsPlain s.inFlow ch next then s.readPlain
        else .error (tokenError "found character that cannot start any token")

def step (s : Scan) : Try Scan := do
  let s := s.skipToToken (s.cursor.rest.length + 1)
  let s ← s.dropStale
  (s.closeBlocks s.cursor.column).readToken

/-- The tokens that are certain when the next one cannot be read: those before any pending key that
    can still get its colon, or has to. -/
def certain (s : Scan) : List Token :=
  let awaited := s.pending.filter fun k => k.required || !s.isStale k
  s.found.reverse.take (awaited.foldl (fun n k => min n k.place) s.found.length)

end Scan

/-- All tokens, up to the first failure. -/
structure Tokens where
  tokens : List Token
  failure : Option Fault

def tokensFrom : Nat → Scan → Tokens
  | 0, s => ⟨s.found.reverse, none⟩
  | n + 1, s =>
    if s.done then ⟨s.found.reverse, none⟩
    else match s.step with
      | .ok s' => tokensFrom n s'
      | .error f => ⟨s.certain, some f⟩

def isReadable (c : Char) : Bool :=
  let n := Text.unitOf c
  n == 9 || n == 10 || n == 13 || (32 ≤ n && n ≤ 126) || n == 0x85 || (0xa0 ≤ n && n ≤ 0xd7ff)
    || (0xe000 ≤ n && n ≤ 0xfffd) || (0x10000 ≤ n && n ≤ 0x10ffff)

def tokens (text : String) : Try Tokens :=
  let cs := text.toList
  if cs.all isReadable then
    let start := Cursor.start cs
    let start := if start.peek.any (·.toNat == 0xfeff) then start.next else start
    .ok (tokensFrom (cs.length + 2) { cursor := start })
  else .error (.yaml ⟨.characters, "special characters are not allowed"⟩)

end Huntbook.Yaml
