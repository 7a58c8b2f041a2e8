import Huntbook.Markdown.Tag
import Huntbook.Markdown.Target

/-!
# Blocks of a document

A document is a sequence of blocks: paragraphs, headings, code, lines across, quotations, lists,
tables, blocks of tags, and definitions of labels.
-/

namespace Huntbook.Markdown

/-! ## Lines of a document

A line as the blocks of a document see it: what the blocks around have left of it, how many
characters of that are indentation, and how wide the indentation is, where a tab goes to the next
multiple of four columns. -/

structure Line where
  chars : Chars := []
  /-- How many of its characters are indentation, or belong to the sign of an item. -/
  shift : Nat := 0
  /-- How wide the indentation is; less than nothing where a paragraph goes on in spite of it. -/
  width : Int := 0
  column : Nat := 0

def gapWidth (c : Char) (column : Nat) : Nat := if c == '\t' then 4 - column % 4 else 1

def gapsWidth (start : Nat) (gaps : Chars) : Nat :=
  gaps.foldl (fun width c => width + gapWidth c (start + width)) 0

namespace Line

def ofChars (chars : Chars) : Line :=
  let gaps := chars.takeWhile fun c => c == ' ' || c == '\t'
  { chars, shift := gaps.length, width := gapsWidth 0 gaps }

def text (l : Line) : Chars := l.chars.drop l.shift

def isEmpty (l : Line) : Bool := l.shift ≥ l.chars.length

/-- The characters without `indent` columns of indentation, of which `width` have been taken away
    with `taken` characters; a tab that is cut leaves spaces. -/
def cut (l : Line) (indent : Nat) : Nat → Nat → Chars → Chars
  | width, _, [] => List.replicate (width - indent) ' '
  | width, taken, c :: cs =>
    if width ≥ indent then List.replicate (width - indent) ' ' ++ c :: cs
    else if c == ' ' || c == '\t' then
      l.cut indent (width + gapWidth c (width + l.column)) (taken + 1) cs
    else if taken < l.shift then l.cut indent (width + 1) (taken + 1) cs
    else c :: cs

def unindented (l : Line) (indent : Nat) : Chars := l.cut indent 0 0 l.chars

end Line

inductive Block
  | paragraph (text : Chars)
  | heading (level : Nat) (text : Chars)
  | code (text : Chars)
  | rule
  | quote (body : List Block)
  | list (first : Option Nat) (items : List (List Block))
  | table (header : List Chars) (rows : List (List Chars))
  | tags
  | definition (key : String) (target : Chars)

/-- The lines that are read, and what stands around them. -/
structure Frame where
  lines : Array Line
  last : Nat
  indent : Nat := 0
  listIndent : Option Nat := none
  level : Nat := 0

def deepestBlock : Nat := 20

namespace Frame

variable (f : Frame)

def line (i : Nat) : Line := f.lines.getD i {}

def isCode (i : Nat) : Bool := (f.line i).width - f.indent ≥ 4

def isOutdented (i : Nat) : Bool := (f.line i).width < f.indent

def text (start stop indent : Nat) : Chars :=
  ['\n'].intercalate ((List.range (stop - start)).map fun k =>
    (f.line (start + k)).unindented indent)

end Frame

/-! ### Lines that begin a block -/

def isTabOrSpace (c : Char) : Bool := c == ' ' || c == '\t'

def fence? (text : Chars) : Option (Char × Nat) :=
  match text with
  | c :: _ =>
    let count := (text.takeWhile (· == c)).length
    if (c == '\x60' || c == '~') && count ≥ 3 && !(c == '\x60' && (text.drop count).contains c)
      then some (c, count) else none
  | [] => none

def isRule (text : Chars) : Bool :=
  match text with
  | c :: _ =>
    (c == '*' || c == '-' || c == '_') && text.all (fun d => d == c || isTabOrSpace d)
      && text.count c ≥ 3
  | [] => false

def heading? (text : Chars) : Option (Nat × Chars) :=
  let level := (text.takeWhile (· == '#')).length
  let rest := text.drop level
  if level == 0 || level > 6 || !rest.head?.all isTabOrSpace then none
  else
    let inside := Text.dropEndWhile isTabOrSpace rest
    let cut := Text.dropEndWhile (· == '#') inside
    let inside := if cut.getLast?.any isTabOrSpace then cut else inside
    some (level, Text.strip Text.isBlank inside)

/-- What an item of a list starts with. -/
structure ItemSign where
  number : Option Nat
  mark : Char
  length : Nat

def itemSign? (text : Chars) : Option ItemSign :=
  let digits := text.takeWhile Char.isDigit
  let follows (length : Nat) : Bool := (text.drop length).head?.all isTabOrSpace
  match text.drop digits.length with
  | c :: _ =>
    if digits.isEmpty then
      if (c == '*' || c == '-' || c == '+') && follows 1 then some ⟨none, c, 1⟩ else none
    else if (c == '.' || c == ')') && digits.length ≤ 9 && follows (digits.length + 1) then
      some ⟨some (numberOf 10 digits), c, digits.length + 1⟩
    else none
  | [] => none

/-- The cells of a row between bars, of which `current` has been read, in reverse; a bar after a
    backslash belongs to its cell. -/
def cellsFrom (escaped : Bool) (current : Chars) : Chars → List Chars
  | [] => [current.reverse]
  | '|' :: rest =>
    if escaped then cellsFrom false ('|' :: current.drop 1) rest
    else current.reverse :: cellsFrom false [] rest
  | c :: rest => cellsFrom (c == '\\') (c :: current) rest

def cells (text : Chars) : List Chars :=
  let all := cellsFrom false [] (Text.strip Text.isBlank text)
  let all := if all.head? == some [] then all.drop 1 else all
  if all.getLast? == some [] then all.dropLast else all

def isUnderline (cell : Chars) : Bool :=
  let inside := if cell.head? == some ':' then cell.drop 1 else cell
  let inside := if inside.getLast? == some ':' then inside.dropLast else inside
  !inside.isEmpty && inside.all (· == '-')

def underlineColumns? (text : Chars) : Option Nat :=
  let isPart (c : Char) : Bool := c == '|' || c == '-' || c == ':'
  match text with
  | first :: second :: rest =>
    if !isPart first || !(isPart second || isTabOrSpace second)
      || (first == '-' && isTabOrSpace second)
      || !rest.all (fun c => isPart c || isTabOrSpace c) then none
    else
      let all := (Text.splitList '|' text).map (Text.strip Text.isBlank)
      let inner := if all.head? == some [] then all.drop 1 else all
      let inner := if inner.getLast? == some [] then inner.dropLast else inner
      if inner.all isUnderline then some inner.length else none
  | _ => none

namespace Frame

variable (f : Frame)

def tableHeader? (i stop : Nat) : Option (List Chars) :=
  if i + 2 > stop || f.isOutdented (i + 1) || f.isCode (i + 1) || f.isCode i then none
  else
    let text := (f.line i).text
    match underlineColumns? (f.line (i + 1)).text with
    | none => none
    | some columns =>
      let header := cells text
      if text.contains '|' && !header.isEmpty && header.length == columns then
        some (header.map (Text.strip Text.isBlank))
      else none

def listSign? (i : Nat) (inParagraph : Bool) : Option ItemSign := do
  let l := f.line i
  if f.isCode i then none
  else if f.listIndent.any fun indent => l.width - indent ≥ 4 && f.isOutdented i then none
  else
    let sign ← itemSign? l.text
    let strict := inParagraph && !f.isOutdented i
    if strict && (sign.number.any (· != 1) || (l.text.drop sign.length).all isTabOrSpace) then none
    else some sign

def endsItems (i : Nat) : Bool :=
  !f.isCode i && (let text := (f.line i).text
    (fence? text).isSome || text.head? == some '>' || isRule text)

def endsQuote (i : Nat) (inParagraph : Bool) : Bool :=
  f.endsItems i || (f.listSign? i inParagraph).isSome
    || (!f.isCode i && (let text := (f.line i).text
      (TagBlock.ofLine? text).any TagBlock.interrupts || (heading? text).isSome))

def endsParagraph (i stop : Nat) (inParagraph : Bool) : Bool :=
  (f.tableHeader? i stop).isSome || f.endsQuote i inParagraph

def paragraphEnd (f : Frame) (inParagraph : Bool) : Nat → Nat → Nat
  | 0, i => i
  | n + 1, i =>
    let l := f.line i
    if i ≥ f.last || l.isEmpty then i
    else if l.width - f.indent > 3 || l.width < 0 then f.paragraphEnd inParagraph n (i + 1)
    else if f.endsParagraph i f.last inParagraph then i
    else f.paragraphEnd inParagraph n (i + 1)

def underline? (f : Frame) (stop : Nat) : Nat → Nat → Option (Nat × Nat)
  | 0, _ => none
  | n + 1, i =>
    let l := f.line i
    if i ≥ stop || l.isEmpty then none
    else if l.width - f.indent > 3 then f.underline? stop n (i + 1)
    else
      let c := l.text.head?.getD ' '
      if !f.isOutdented i && (c == '-' || c == '=')
        && (l.text.dropWhile (· == c)).all isTabOrSpace then some (i, if c == '=' then 1 else 2)
      else if l.width < 0 then f.underline? stop n (i + 1)
      else if f.endsParagraph i stop true then none
      else f.underline? stop n (i + 1)

def codeEnd (f : Frame) (stop : Nat) : Nat → Nat → Nat → Nat
  | 0, _, last => last
  | n + 1, i, last =>
    if i ≥ stop then last
    else if (f.line i).isEmpty then f.codeEnd stop n (i + 1) last
    else if f.isCode i then f.codeEnd stop n (i + 1) (i + 1)
    else last

def fenceEnd (f : Frame) (c : Char) (count stop : Nat) : Nat → Nat → Nat × Bool
  | 0, i => (i, false)
  | n + 1, i =>
    let l := f.line i
    if i ≥ stop || (!l.isEmpty && f.isOutdented i) then (i, false)
    else
      let run := (l.text.takeWhile (· == c)).length
      if run ≥ count && !f.isCode i && (l.text.drop run).all isTabOrSpace then (i, true)
      else f.fenceEnd c count stop n (i + 1)

def tagsEnd (f : Frame) (b : TagBlock) (stop : Nat) : Nat → Nat → Nat
  | 0, i => i
  | n + 1, i =>
    if i ≥ stop || f.isOutdented i then i
    else
      let text := (f.line i).text
      if b.endsAt text then if text.isEmpty then i else i + 1
      else f.tagsEnd b stop n (i + 1)

def tableRows (f : Frame) (columns stop : Nat) : Nat → Nat → List (List Chars) × Nat
  | 0, i => ([], i)
  | n + 1, i =>
    let text := (f.line i).text
    if i ≥ stop || f.isOutdented i || f.endsQuote i false || text.all Text.isBlank || f.isCode i
      then ([], i)
    else
      let row := cells text
      let (rows, next) := f.tableRows columns stop n (i + 1)
      ((List.range columns).map (fun k => Text.strip Text.isBlank (row.getD k [])) :: rows, next)

end Frame

/-! ### Definitions -/

/-- The label of a definition, without its opening bracket, and the text after the colon;
    `inside` has been read, in reverse. -/
def definedLabel? (inside : Chars) : Chars → Option (Chars × Chars)
  | '\\' :: c :: rest => definedLabel? (c :: '\\' :: inside) rest
  | '[' :: _ => none
  | ']' :: ':' :: rest => some (inside.reverse, rest)
  | ']' :: _ => none
  | c :: rest => definedLabel? (c :: inside) rest
  | [] => none

def endsLine (cs : Chars) : Bool := (cs.dropWhile isTabOrSpace).head?.all (· == '\n')

def definition? (text : Chars) : Option (String × Chars × Chars) := do
  let isBlankHere (c : Char) : Bool := isTabOrSpace c || c == '\n'
  let (label, rest) ← match text with
    | '[' :: rest => definedLabel? [] rest
    | _ => none
  let (target, rest) ← target? (rest.dropWhile isBlankHere)
  if !isAllowed target then none
  else
    let gap := rest.dropWhile isBlankHere
    let titled := if gap.length < rest.length then title? gap else none
    let rest ← match titled with
      | some (title, after) =>
        if endsLine after then some after
        else if !title.isEmpty && endsLine rest then some rest
        else none
      | none => if endsLine rest then some rest else none
    let key := labelKey label
    if key.isEmpty then none else some (key, target, rest.dropWhile isTabOrSpace)

def mayDefine (previous : Char) : Chars → Bool
  | [] => true
  | c :: rest => if c == ']' && previous != '\\' then rest.head? == some ':' else mayDefine c rest

def Frame.definition? (f : Frame) (i : Nat) : Option (Block × Nat) := do
  let first := (f.line i).text
  if f.isCode i || first.head? != some '[' || !mayDefine ' ' first then none
  else
    let stop := f.paragraphEnd false f.lines.size (i + 1)
    let text := Text.strip Text.isBlank (f.text i stop f.indent)
    let (key, target, rest) ← Markdown.definition? text
    let lines := (text.take (text.length - rest.length)).count '\n'
    return (.definition key target, i + lines + 1)

/-! ### Blocks -/

def quotedLine (l : Line) : Line :=
  let start := l.width.toNat + 1
  let rest := l.chars.drop (l.shift + 1)
  let tabKept := rest.head? == some '\t' && (l.column + start) % 4 != 3
  let blank := rest.head?.any isTabOrSpace
  let taken := if blank && !tabKept then 1 else 0
  let rest := rest.drop taken
  let initial := start + taken
  let gaps := rest.takeWhile isTabOrSpace
  { chars := rest
    shift := gaps.length
    width := gapsWidth (initial + l.column + (if tabKept then 1 else 0)) gaps
    column := l.width.toNat + 1 + (if blank then 1 else 0) }

/-- The lines of a quotation that goes on at line `i`: the frame for its blocks, and the line after
    them. Lines without its sign belong to it as long as they continue a paragraph. -/
def Frame.quoted (stop : Nat) (f : Frame) (lastEmpty : Bool) : Nat → Nat → Frame × Nat
  | 0, i => (f, i)
  | n + 1, i =>
    let l := f.line i
    if i ≥ stop || l.isEmpty then (f, i)
    else if l.text.head? == some '>' && !f.isOutdented i then
      let q := quotedLine l
      Frame.quoted stop { f with lines := f.lines.setIfInBounds i q } q.isEmpty n (i + 1)
    else if lastEmpty then (f, i)
    else if f.endsQuote i false then
      ({ f with
          last := i
          lines := f.lines.setIfInBounds i { l with width := l.width - f.indent } }, i)
    else
      Frame.quoted stop { f with lines := f.lines.setIfInBounds i { l with width := -1 } } false n
        (i + 1)

def itemLine (l : Line) (sign : ItemSign) : Line × Nat :=
  let initial := l.width.toNat + sign.length
  let rest := l.chars.drop (l.shift + sign.length)
  let gaps := rest.takeWhile isTabOrSpace
  let width := gapsWidth (initial + l.column) gaps
  let empty := gaps.length == rest.length
  let indent := if empty || width > 4 then 1 else width
  ({ l with
      shift := l.shift + sign.length + gaps.length
      width := (initial + width : Nat) }, initial + indent)

def Frame.skipEmpty (f : Frame) : Nat → Nat → Nat
  | 0, i => i
  | n + 1, i => if i < f.last && (f.line i).isEmpty then f.skipEmpty n (i + 1) else i

mutual

def blocksFrom : Nat → Frame → Nat → Nat → List Block × Nat
  | 0, _, i, _ => ([], i)
  | n + 1, f, i, stop =>
    if i ≥ stop then ([], i)
    else
      let i := f.skipEmpty f.lines.size i
      if i ≥ stop || f.isOutdented i then ([], i)
      else if f.level ≥ deepestBlock then ([], stop)
      else
        let (block, next) := blockAt n f i stop
        let next := if next < stop && (f.line next).isEmpty then next + 1 else next
        let (blocks, last) := blocksFrom n f next stop
        (block :: blocks, last)

def blockAt : Nat → Frame → Nat → Nat → Block × Nat
  | 0, _, i, _ => (.tags, i + 1)
  | n + 1, f, i, stop =>
    let size := f.lines.size
    let text := (f.line i).text
    match f.tableHeader? i stop with
    | some header =>
      let (rows, next) := f.tableRows header.length stop size (i + 2)
      (.table header rows, next)
    | none =>
      if f.isCode i then
        let next := f.codeEnd stop size (i + 1) (i + 1)
        (.code (f.text i next (4 + f.indent)), next)
      else match fence? text with
        | some (c, count) =>
          let (close, closed) := f.fenceEnd c count stop size (i + 1)
          (.code (f.text (i + 1) close (f.line i).width.toNat), if closed then close + 1 else close)
        | none =>
          if text.head? == some '>' then
            let q := quotedLine (f.line i)
            let lines := f.lines.setIfInBounds i q
            let (inner, close) := Frame.quoted stop { f with lines } q.isEmpty size (i + 1)
            let (body, next) := blocksFrom n { inner with indent := 0, level := f.level + 1 } i close
            (.quote body, next)
          else if isRule text then (.rule, i + 1)
          else match f.listSign? i false with
            | some sign =>
              let (items, next) := itemsFrom n f sign i stop
              (.list sign.number items, next)
            | none =>
              match f.definition? i with
              | some found => found
              | none =>
                match TagBlock.ofLine? text with
                | some b => (.tags, if b.endsAt text then i + 1 else f.tagsEnd b stop size (i + 1))
                | none =>
                  match heading? text with
                  | some (level, inside) => (.heading level inside, i + 1)
                  | none =>
                    match f.underline? stop size (i + 1) with
                    | some (close, level) =>
                      (.heading level (Text.strip Text.isBlank (f.text i close f.indent)), close + 1)
                    | none =>
                      let next := f.paragraphEnd true size (i + 1)
                      (.paragraph (Text.strip Text.isBlank (f.text i next f.indent)), next)

def itemsFrom : Nat → Frame → ItemSign → Nat → Nat → List (List Block) × Nat
  | 0, _, _, i, _ => ([], i)
  | n + 1, f, sign, i, stop =>
    let (l, indent) := itemLine (f.line i) sign
    let inner := { f with
      lines := f.lines.setIfInBounds i l
      indent
      listIndent := some f.indent
      level := f.level + 2 }
    let (body, next) := if l.isEmpty && (f.line (i + 1)).isEmpty then ([], min (i + 2) stop)
      else blocksFrom n inner i stop
    let sameList (other : ItemSign) : Bool :=
      other.number.isSome == sign.number.isSome && other.mark == sign.mark
    let following := if next ≥ stop || f.isOutdented next || f.isCode next || f.endsItems next
      then none else itemSign? (f.line next).text
    match following with
    | some other =>
      if sameList other then
        let (items, last) := itemsFrom n f other next stop
        (body :: items, last)
      else ([body], next)
    | none => ([body], next)

end

def linesOf : Chars → List Chars
  | [] => [[]]
  | '\r' :: '\n' :: rest => [] :: linesOf rest
  | '\r' :: rest => [] :: linesOf rest
  | '\n' :: rest => [] :: linesOf rest
  | c :: rest =>
    let c := if c == '\x00' then '�' else c
    match linesOf rest with
    | [] => [[c]]
    | line :: lines => (c :: line) :: lines

def blocksOf (document : String) : List Block :=
  let lines := ((linesOf document.toList).map Line.ofChars).toArray
  (blocksFrom (4 * lines.size + 4 * deepestBlock + 4) { lines, last := lines.size } 0 lines.size).1

end Huntbook.Markdown
