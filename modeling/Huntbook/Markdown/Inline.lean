import Huntbook.Markdown.Emphasis
import Huntbook.Markdown.Tag
import Huntbook.Markdown.Target

/-!
# Running text

The text of a paragraph, a heading or a cell, with its signs taken away: escapes, code, emphasis,
links, pictures, addresses, tags and character references.
-/

namespace Huntbook.Markdown

/-- A text, with the targets that are defined elsewhere in the document. -/
structure Source where
  chars : Array Char
  labels : List (String × Chars)

/-- The label and the target of a link. -/
structure Anchor where
  (start stop : Nat)
  target : Chars
  next : Nat

abbrev Skimming := StateM (Array (Option Nat))

namespace Source

variable (s : Source)

def slice (start stop : Nat) : Chars := (s.chars.extract start stop).toList

def char? (pos stop : Nat) : Option Char := if pos < stop then s.chars[pos]? else none

def runLength (isIn : Char → Bool) (pos stop : Nat) : Nat :=
  ((s.slice pos stop).takeWhile isIn).length

def lookup? (label : Chars) : Option Chars :=
  let key := labelKey label
  (s.labels.find? (·.1 == key)).map (·.2)

end Source

def isMarkup (c : Char) : Bool := "\n!#$%&*+-:<=>@[\\]^_\x60\x7b\x7d~".toList.contains c

def isGap (c : Char) : Bool := c == ' ' || c == '\t'

def isGapOrLine (c : Char) : Bool := isGap c || c == '\n'

/-- The end of a code span whose opening run of `count` signs ends at `pos`: where its closing run
    begins. -/
def codeEnd? (count : Nat) : Nat → Nat → Chars → Option Nat
  | pos, run, [] => if run == count then some (pos - run) else none
  | pos, run, c :: rest =>
    if c == '\x60' then codeEnd? count (pos + 1) (run + 1) rest
    else if run == count then some (pos - run)
    else codeEnd? count (pos + 1) 0 rest

def Source.codeEnd? (s : Source) (count pos : Nat) : Option Nat :=
  Markdown.codeEnd? count pos 0 (s.slice pos s.chars.size)

def angled? (cs : Chars) : Option Chars :=
  let inside := cs.takeWhile fun c => c != '<' && c != '>'
  if (cs.drop inside.length).head? == some '>' then some inside else none

def dropLastLine (cs : Chars) : Chars :=
  match cs.reverse with
  | '\n' :: rest => rest.reverse
  | _ => cs

def isAddress (cs : Chars) : Bool :=
  let scheme := cs.takeWhile (· != ':')
  let rest := cs.drop (scheme.length + 1)
  scheme.length < cs.length && 2 ≤ scheme.length && scheme.length ≤ 32
    && scheme.head?.any Char.isAlpha
    && scheme.all (fun c => c.isAlphanum || c == '+' || c == '.' || c == '-')
    && (dropLastLine rest).all fun c => c.toNat > 0x20 && c != '<' && c != '>'

def isServerPart (cs : Chars) : Bool :=
  !cs.isEmpty && cs.length ≤ 63 && cs.all (fun c => c.isAlphanum || c == '-')
    && cs.head? != some '-' && cs.getLast? != some '-'

def isMailAddress (cs : Chars) : Bool :=
  let name := cs.takeWhile (· != '@')
  let server := dropLastLine (cs.drop (name.length + 1))
  !name.isEmpty && name.length < cs.length
    && name.all (fun c => c.isAlphanum || ".!#$%&'*+/=?^_\x60\x7b|\x7d~-".toList.contains c)
    && (Text.splitList '.' server).all isServerPart

def Source.address? (s : Source) (pos stop : Nat) : Option Chars := do
  let inside ← angled? (s.slice (pos + 1) stop)
  if (isAddress inside && isAllowed inside) || (!isAddress inside && isMailAddress inside)
    then some inside else none

def Source.tagEnd? (s : Source) (pos stop : Nat) : Option Nat :=
  match s.char? (pos + 1) stop with
  | some c =>
    if pos + 2 < stop && (c == '!' || c == '?' || c == '/' || c.isAlpha) then
      (Markdown.tagEnd? (s.slice pos s.chars.size)).map fun rest => s.chars.size - rest.length
    else none
  | none => none

/-- How the part after the text of a link was read: as a target in parentheses, not at all, or as
    something after which a label may stand. -/
inductive AfterText
  | target (target : Chars) (next : Nat)
  | nothing
  | label (pos : Nat)

def Source.afterText (s : Source) (pos stop : Nat) : AfterText :=
  if s.char? pos stop != some '(' then .label pos
  else
    let inside := (s.slice (pos + 1) stop).dropWhile isGapOrLine
    if inside.isEmpty then .nothing
    else
      let (target, rest) := match target? inside with
        | some (target, rest) => if isAllowed target then (target, rest) else ([], inside)
        | none => ([], inside)
      let gap := rest.dropWhile isGapOrLine
      let rest := if gap.length < rest.length then
          match title? gap with
          | some (_, rest) => rest.dropWhile isGapOrLine
          | none => gap
        else gap
      match rest with
      | ')' :: rest => .target target (stop - rest.length)
      | rest => .label (stop - rest.length + 1)

def deepestSkip : Nat := 20

mutual

def skipPart (s : Source) : Nat → Nat → Nat → Nat → Skimming Nat
  | 0, _, pos, _ => pure (pos + 1)
  | n + 1, level, pos, stop => do
    match (← get).getD pos none with
    | some next => return next
    | none => do
      let next ←
        if level ≥ deepestSkip then pure (stop + 1)
        else match s.char? pos stop with
          | none => pure (pos + 1)
          | some c =>
            if !isMarkup c then pure (pos + s.runLength (fun c => !isMarkup c) pos stop)
            else if c == '\n' then pure (pos + 1 + s.runLength isGap (pos + 1) stop)
            else if c == '\\' then
              match s.char? (pos + 1) stop with
              | some '\n' => pure (pos + 2 + s.runLength isGap (pos + 2) stop)
              | some _ => pure (pos + 2)
              | none => pure (pos + 1)
            else if c == '\x60' then
              let count := s.runLength (· == '\x60') pos stop
              pure (((s.codeEnd? count (pos + count)).map (· + count)).getD (pos + count))
            else if c == '[' then do
              let found ← linkAt? s n (level + 1) pos stop
              pure ((found.map (·.next)).getD (pos + 1))
            else if c == '!' then do
              let found ← pictureAt? s n (level + 1) pos stop
              pure ((found.map (·.next)).getD (pos + 1))
            else if c == '<' then
              match s.address? pos stop with
              | some inside => pure (pos + inside.length + 2)
              | none => pure ((s.tagEnd? pos stop).getD (pos + 1))
            else if c == '&' then
              match reference? (s.slice (pos + 1) s.chars.size) with
              | some (_, length) => pure (pos + length)
              | none => pure (pos + 1)
            else pure (pos + 1)
      modify fun known => known.setIfInBounds pos (some next)
      return next

/-- The place of the bracket that closes the one before `pos`, with `depth` brackets open. Without
    `nested`, there may be no link inside. -/
def bracketEnd? (s : Source) : Nat → Nat → Bool → Nat → Nat → Nat → Skimming (Option Nat)
  | 0, _, _, _, _, _ => pure none
  | n + 1, level, nested, depth, pos, stop => do
    match s.char? pos stop with
    | none => return none
    | some c =>
      if c == ']' && depth ≤ 1 then return some pos
      else do
        let depth := if c == ']' then depth - 1 else depth
        let next ← skipPart s n level pos stop
        if c == '[' then
          if next == pos + 1 then bracketEnd? s n level nested (depth + 1) next stop
          else if nested then bracketEnd? s n level nested depth next stop
          else return none
        else bracketEnd? s n level nested depth next stop

def linkAt? (s : Source) : Nat → Nat → Nat → Nat → Skimming (Option Anchor)
  | 0, _, _, _ => pure none
  | n + 1, level, pos, stop => do
    match ← bracketEnd? s n level false 1 (pos + 1) stop with
    | none => return none
    | some close =>
      match s.afterText (close + 1) stop with
      | .target target next => return some ⟨pos + 1, close, target, next⟩
      | .nothing => return none
      | .label labelPos => labelled? s n level (pos + 1) close labelPos stop

def pictureAt? (s : Source) : Nat → Nat → Nat → Nat → Skimming (Option Anchor)
  | 0, _, _, _ => pure none
  | n + 1, level, pos, stop => do
    if (s.char? (pos + 1) stop).any (· != '[') then return none
    else match ← bracketEnd? s n level true 1 (pos + 2) stop with
      | none => return none
      | some close =>
        match s.afterText (close + 1) stop with
        | .target target next => return some ⟨pos + 2, close, target, next⟩
        | .nothing => return none
        | .label labelPos =>
          if labelPos == close + 1 then labelled? s n level (pos + 2) close labelPos stop
          else return none

/-- The link or picture whose text has been read, if the label after it, or its text as a label,
    is defined. -/
def labelled? (s : Source) : Nat → Nat → Nat → Nat → Nat → Nat → Skimming (Option Anchor)
  | 0, _, _, _, _, _ => pure none
  | n + 1, level, start, close, labelPos, stop => do
    if s.labels.isEmpty then return none
    else
      let found ←
        if s.char? labelPos stop == some '[' then
          bracketEnd? s n level true 1 (labelPos + 1) stop
        else pure none
      let (label, next) := match found with
        | some labelEnd => (s.slice (labelPos + 1) labelEnd, labelEnd + 1)
        | none => ([], close + 1)
      let label := if label.isEmpty then s.slice start close else label
      return (s.lookup? label).map fun target => ⟨start, close, target, next⟩

end

inductive Piece
  | text (cs : Chars)
  | sign (cs : Chars) (sign : Sign)
  | picture (alternative target : Chars)

/-- What code shows: line feeds become spaces, and one space at either end is taken away unless
    there are only blanks. -/
def codeText (cs : Chars) : Chars :=
  let cs := cs.map fun c => if c == '\n' then ' ' else c
  if cs.head? == some ' ' && cs.getLast? == some ' ' && !cs.all Text.isBlank
    then (cs.drop 1).dropLast else cs

def resolved (pieces : List Piece) : List Piece :=
  let signs := pieces.filterMap fun
    | .sign _ sign => some sign
    | _ => none
  let paired := partnered signs.toArray
  (pieces.foldl (fun (acc : List Piece × Nat) piece =>
    match piece with
    | .sign cs _ => (if paired.getD acc.2 false then acc.1 else .text cs :: acc.1, acc.2 + 1)
    | piece => (piece :: acc.1, acc.2)) ([], 0)).1.reverse

/-- What has been read of a text: its pieces, latest first, and the plain text since then, in
    reverse. -/
structure Reading where
  pieces : List Piece := []
  plain : Chars := []
  runs : Nat := 0

namespace Reading

def more (r : Reading) (cs : Chars) : Reading := { r with plain := cs.reverse ++ r.plain }

def flush (r : Reading) : Reading :=
  if r.plain.isEmpty then r else { r with pieces := .text r.plain.reverse :: r.pieces, plain := [] }

def add (r : Reading) (p : Piece) : Reading :=
  let r := r.flush
  { r with pieces := p :: r.pieces }

def lineEnd (r : Reading) : Reading :=
  let spaces := (r.plain.takeWhile (· == ' ')).length
  { r with plain := r.plain.drop spaces }.add (.text [if spaces ≥ 2 then '\n' else ' '])

/-- The reading with a run of signs, all of which may open or close emphasis. Tildes stand in
    pairs, and one that is left over is text. -/
def signs (r : Reading) (c : Char) (count : Nat) (flanks : Bool × Bool) : Reading :=
  let sign (length : Nat) : Sign := ⟨c, length, r.runs, flanks.1, flanks.2⟩
  let r' := if c == '~' then
      let r' := if count % 2 == 1 then r.add (.text [c]) else r
      (List.range (count / 2)).foldl (fun r' _ => r'.add (.sign [c, c] (sign 0))) r'
    else (List.range count).foldl (fun r' _ => r'.add (.sign [c] (sign count))) r
  { r' with runs := r.runs + 1 }

end Reading

def piecesFrom (s : Source) : Nat → Nat → Nat → Nat → Reading → Skimming (List Piece)
  | 0, _, _, _, r => pure (resolved r.flush.pieces.reverse)
  | n + 1, level, pos, stop, r =>
    match s.char? pos stop with
    | none => pure (resolved r.flush.pieces.reverse)
    | some c => do
      let onward (next : Nat) (r : Reading) := piecesFrom s n level next stop r
      let plain := onward (pos + 1) (r.more [c])
      if !isMarkup c then
        let length := s.runLength (fun c => !isMarkup c) pos stop
        onward (pos + length) (r.more (s.slice pos (pos + length)))
      else if c == '\n' then
        onward (pos + 1 + s.runLength isGap (pos + 1) stop) r.lineEnd
      else if c == '\\' then
        match s.char? (pos + 1) stop with
        | none => plain
        | some '\n' => onward (pos + 2 + s.runLength isGap (pos + 2) stop) (r.add (.text ['\n']))
        | some d => onward (pos + 2) (r.add (.text (if Text.isSign d then [d] else [c, d])))
      else if c == '\x60' then
        let count := s.runLength (· == c) pos stop
        match s.codeEnd? count (pos + count) with
        | some close =>
          onward (close + count) (r.add (.text (codeText (s.slice (pos + count) close))))
        | none => onward (pos + count) (r.more (List.replicate count c))
      else if c == '*' || c == '_' || c == '~' then
        let count := s.runLength (· == c) pos stop
        if c == '~' && count < 2 then plain
        else
          let before := if pos == 0 then ' ' else s.chars.getD (pos - 1) ' '
          let after := (s.char? (pos + count) stop).getD ' '
          onward (pos + count) (r.signs c count (flanks (c != '_') before after))
      else if c == '[' then do
        match ← linkAt? s n level pos stop with
        | some link =>
          let inside ← piecesFrom s n (level + 1) link.start link.stop {}
          let r := r.flush
          onward link.next { r with pieces := inside.reverse ++ r.pieces }
        | none => plain
      else if c == '!' then do
        match ← pictureAt? s n level pos stop with
        | some p => onward p.next (r.add (.picture (s.slice p.start p.stop) p.target))
        | none => plain
      else if c == '<' then
        match s.address? pos stop, s.tagEnd? pos stop with
        | some inside, _ => onward (pos + inside.length + 2) (r.add (.text (readable inside)))
        | none, some next => onward next (r.add (.text []))
        | none, none => plain
      else if c == '&' then
        match reference? (s.slice (pos + 1) s.chars.size) with
        | some (cs, length) => onward (pos + length) (r.add (.text cs))
        | none => plain
      else plain

/-- What is shown of a text. -/
structure Shown where
  text : Chars := []
  pictures : List (Chars × Chars) := []

def shown (labels : List (String × Chars)) (text : Chars) : Shown :=
  let s : Source := ⟨text.toArray, labels⟩
  let size := s.chars.size
  let pieces := ((piecesFrom s (8 * size + 8 * deepestSkip + 8) 0 0 size {}).run
    (Array.replicate (size + 1) none)).1
  pieces.foldr (fun p acc => match p with
    | .text cs => { acc with text := cs ++ acc.text }
    | .sign cs _ => { acc with text := cs ++ acc.text }
    | .picture alternative target =>
      { acc with pictures := (alternative, target) :: acc.pictures }) {}

end Huntbook.Markdown
