import Huntbook.Text.Printable
import Huntbook.Text.Pieces

/-!
# Sheets

The text of a YAML document as it is being written. A sheet knows its last column, whether it ends
in a blank, and whether the current line holds nothing but indentation and list marks; these
decide where blanks and line breaks go.
-/

namespace Huntbook.Yaml

structure Style where
  unicode : Bool
  width : Nat

def Style.ascii : Style := ⟨false, 80⟩

def Style.full : Style := ⟨true, 80⟩

/-- What has been written, and how it ends. -/
structure Sheet where
  out : String
  column : Nat
  (blank fresh : Bool)
  placed : List Nat

namespace Sheet

def empty : Sheet := ⟨"", 0, true, true, []⟩

def write (s : Sheet) (cs : Chars) : Sheet :=
  { s with out := s.out ++ String.ofList cs, column := s.column + cs.length }

def breakWith (s : Sheet) (c : Char) : Sheet :=
  { s with out := s.out.push c, column := 0, blank := true, fresh := true }

def newLine (s : Sheet) : Sheet := s.breakWith '\n'

def toIndent (s : Sheet) (indent : Nat) : Sheet :=
  let s := if !s.fresh || s.column > indent || (s.column == indent && !s.blank) then s.newLine
    else s
  if s.column < indent then
    { s.write (List.replicate (indent - s.column) ' ') with blank := true }
  else s

def indicator (s : Sheet) (mark : String) (needsBlank : Bool) (keepsFresh : Bool) : Sheet :=
  let s := s.write (if s.blank || !needsBlank then mark.toList else ' ' :: mark.toList)
  { s with blank := false, fresh := s.fresh && keepsFresh }

def isBreak (c : Char) : Bool :=
  c == '\n' || c.toNat == 0x85 || c.toNat == 0x2028 || c.toNat == 0x2029

inductive RunKind
  | space | lineBreak | other
  deriving DecidableEq

def runKind (c : Char) : RunKind :=
  if c == ' ' then .space else if isBreak c then .lineBreak else .other

def runs : Chars → List Chars
  | [] => []
  | c :: cs =>
    match runs cs with
    | (d :: ds) :: rest => if runKind c = runKind d then (c :: d :: ds) :: rest
        else [c] :: (d :: ds) :: rest
    | rest => [c] :: rest

def plainRuns (width indent : Nat) (split : Bool) : List Chars → Sheet → Sheet
  | [], s => s
  | run :: rest, s =>
    let s := if run == [' '] && s.column > width && split then
        { s.toIndent indent with blank := false, fresh := false }
      else s.write run
    plainRuns width indent split rest s

def plain (style : Style) (indent : Nat) (split : Bool) (cs : Chars) (s : Sheet) : Sheet :=
  if cs.isEmpty then s
  else
    let s := if s.blank then s else s.write [' ']
    plainRuns style.width indent split (runs cs) { s with blank := false, fresh := false }

def breakRun (run : Chars) (s : Sheet) : Sheet :=
  let s := if run.head? == some '\n' then s.newLine else s
  run.foldl (fun s c => s.breakWith c) s

def singleRuns (width indent : Nat) (split : Bool) :
    Bool → List Chars → Sheet → Sheet
  | _, [], s => s
  | first, run :: rest, s =>
    let s :=
      if run.all (· == ' ') then
        if run.length == 1 && s.column > width && split && !first && !rest.isEmpty then
          s.toIndent indent
        else s.write run
      else if run.any isBreak then (breakRun run s).toIndent indent
      else s.write (run.flatMap fun c => if c == '\'' then ['\'', '\''] else [c])
    singleRuns width indent split false rest s

def singleQuoted (style : Style) (indent : Nat) (split : Bool) (cs : Chars) (s : Sheet) :
    Sheet :=
  (singleRuns style.width indent split true (runs cs) (s.indicator "'" true false)).indicator
    "'" false false

def escapeLetters : List (Nat × Char) :=
  [(0, '0'), (7, 'a'), (8, 'b'), (9, 't'), (10, 'n'), (11, 'v'), (12, 'f'), (13, 'r'), (27, 'e'),
   (34, '"'), (92, '\\'), (0x85, 'N'), (0xa0, '_'), (0x2028, 'L'), (0x2029, 'P')]

def capitalHex (width n : Nat) : Chars := (Text.hex width n).toList.map Char.toUpper

def escapeOf (c : Char) : Chars :=
  match escapeLetters.find? fun e => e.1 == c.toNat with
  | some (_, letter) => ['\\', letter]
  | none =>
    let n := Text.unitOf c
    if n ≤ 0xff then ['\\', 'x'] ++ capitalHex 2 n
    else if n ≤ 0xffff then ['\\', 'u'] ++ capitalHex 4 n
    else ['\\', 'U'] ++ capitalHex 8 n

def isEscaped (unicode : Bool) (c : Char) : Bool :=
  c == '"' || c == '\\' || c.toNat == 0x85 || c.toNat == 0x2028 || c.toNat == 0x2029
    || c.toNat == 0xfeff
    || !((0x20 ≤ c.toNat && c.toNat ≤ 0x7e)
      || (unicode && 0xa0 ≤ c.toNat && c.toNat ≤ 0xfffd))

/-- Breaks the line inside double quotes: the break itself is escaped, and so is a blank at the
    start of the next line. -/
def foldLine (indent : Nat) (next : Option Char) (s : Sheet) : Sheet :=
  let s := { (s.write ['\\']).toIndent indent with blank := false, fresh := false }
  if next == some ' ' then s.write ['\\'] else s

/-- Writes the characters of a scalar in double quotes; `pending` holds, in reverse, those that
    have been read and not written. -/
def doubleFrom (style : Style) (indent : Nat) (split : Bool) :
    Bool → Chars → Chars → Sheet → Sheet
  | _, pending, [], s => s.write pending.reverse
  | first, pending, c :: rest, s =>
    let mayFold := split && !first && !rest.isEmpty
    if isEscaped style.unicode c then
      let s := (s.write pending.reverse).write (escapeOf c)
      let s := if mayFold && s.column > style.width + 1 then s.foldLine indent rest.head? else s
      doubleFrom style indent split false [] rest s
    else if mayFold && (c == ' ' || pending.isEmpty)
        && s.column + pending.length > style.width then
      doubleFrom style indent split false [c] rest
        ((s.write pending.reverse).foldLine indent (some c))
    else doubleFrom style indent split false (c :: pending) rest s

def doubleQuoted (style : Style) (indent : Nat) (split : Bool) (cs : Chars) (s : Sheet) :
    Sheet :=
  (doubleFrom style indent split true [] cs (s.indicator "\"" true false)).indicator
    "\"" false false

def literal (indent : Nat) (cs : Chars) (s : Sheet) : Sheet :=
  let lines := (Text.splitList '\n' cs).filter (!·.isEmpty)
  lines.foldl (fun s line => ((s.toIndent indent).write line).newLine)
    (s.indicator "|" true false).newLine

end Sheet

end Huntbook.Yaml
