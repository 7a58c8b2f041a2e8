import Huntbook.Yaml.Node
import Huntbook.Yaml.Sheet

/-!
# Writing documents

A document in block style: entries and items on lines of their own, mappings in their order.
-/

namespace Huntbook.Yaml

open Sheet (isBreak)

def isGap (c : Option Char) : Bool :=
  match c with
  | none => true
  | some c => c == ' ' || c == '\t' || c == '\r' || c.toNat == 0 || isBreak c

def anyNeighbours (p : Char → Char → Bool) : Chars → Bool
  | a :: b :: cs => p a b || anyNeighbours p (b :: cs)
  | _ => false

def isPrintable (unicode : Bool) (c : Char) : Bool :=
  c == '\n' || (0x20 ≤ c.toNat && c.toNat ≤ 0x7e)
    || (unicode && c.toNat != 0xfeff && (c.toNat == 0x85
      || (0xa0 ≤ c.toNat && c.toNat ≤ 0xfffd)
      || (0x10000 ≤ c.toNat && c.toNat < 0x10ffff && (Text.half? c).isNone)))

def hasInnerMark (before : Char) : Chars → Bool
  | [] => false
  | c :: cs =>
    (c == ':' && isGap cs.head?) || (c == '#' && isGap (some before)) || hasInnerMark c cs

def hasMark (cs : Chars) : Bool :=
  match cs with
  | [] => false
  | c :: rest =>
    ['-', '-', '-'].isPrefixOf cs || ['.', '.', '.'].isPrefixOf cs
      || ("#,[]\x7b\x7d&*!|>'\"%@`".toList.contains c)
      || ((c == '?' || c == ':' || c == '-') && isGap rest.head?)
      || hasInnerMark c rest

/-- How a scalar may be written. -/
structure Analysis where
  (isEmpty multiline allowPlain allowSingle allowLiteral : Bool)

def Analysis.of (unicode : Bool) (cs : Chars) : Analysis :=
  if cs.isEmpty then ⟨true, false, true, true, false⟩
  else
    let atEdge (p : Char → Bool) := cs.head?.any p || cs.getLast?.any p
    let special := !cs.all (isPrintable unicode)
    let breakSpace := anyNeighbours (fun a b => isBreak a && b == ' ') cs
    let spaceBreak := anyNeighbours (fun a b => a == ' ' && isBreak b) cs
    { isEmpty := false
      multiline := cs.any isBreak
      allowPlain := !(atEdge (fun c => c == ' ' || isBreak c) || special || cs.any isBreak
        || hasMark cs)
      allowSingle := !(breakSpace || spaceBreak || special)
      allowLiteral := !(cs.getLast? == some ' ' || spaceBreak || special) }

inductive ScalarStyle
  | plain | single | double | literal
  deriving DecidableEq

def scalarStyle (a : Analysis) (tag : Tag) (readsBack isKey : Bool) : ScalarStyle :=
  if tag == .binary then if !isKey && a.allowLiteral then .literal else .double
  else if readsBack && !(isKey && (a.isEmpty || a.multiline)) && a.allowPlain then .plain
  else if a.allowSingle && !(isKey && a.multiline) then .single
  else .double

/-- The labels that a walk has met, and those that it has met again. -/
structure Labels where
  (seen shared : List Nat)

def Labels.meet (ls : Labels) (label : Nat) : Labels × Bool :=
  if ls.seen.contains label then
    (if ls.shared.contains label then ls else { ls with shared := ls.shared ++ [label] }, false)
  else ({ ls with seen := label :: ls.seen }, true)

mutual

def meetNode : Node → Labels → Labels
  | .scalar none _ _, ls => ls
  | .scalar (some l) _ _, ls => (ls.meet l).1
  | .seq none _ items, ls => meetAll items ls
  | .seq (some l) _ items, ls =>
    let (ls, new) := ls.meet l
    if new then meetAll items ls else ls
  | .map none _ entries, ls => meetEntries entries ls
  | .map (some l) _ entries, ls =>
    let (ls, new) := ls.meet l
    if new then meetEntries entries ls else ls
  | .link l, ls => (ls.meet l).1

def meetAll : List Node → Labels → Labels
  | [], ls => ls
  | n :: ns, ls => meetAll ns (meetNode n ls)

def meetEntries : Pairs → Labels → Labels
  | [], ls => ls
  | (k, v) :: rest, ls => meetEntries rest (meetNode v (meetNode k ls))

end

def anchorName (number : Nat) : String := "id" ++ padded 3 number

/-- Where a node is written. -/
structure Place where
  indent : Option Nat
  (inMap isKey : Bool)

def deeper : Option Nat → Nat
  | none => 0
  | some n => n + 2

def nameOf? (shared : List Nat) (label : Option Nat) : Option String :=
  label.bind fun l => (shared.idxOf? l).map fun i => anchorName (i + 1)

def writeScalar (style : Style) (place : Place) (tag : Tag) (text : String) (s : Sheet) : Sheet :=
  let cs := text.toList
  let readsBack := resolve text == tag
  let a := Analysis.of style.unicode cs
  let chosen := scalarStyle a tag readsBack place.isKey
  let implicit := if chosen == .plain then readsBack else tag == .text
  let s := if implicit then s else s.indicator tag.shorthand true false
  let indent := (place.indent.map (· + 2)).getD 2
  match chosen with
  | .plain => s.plain style indent (!place.isKey) cs
  | .single => s.singleQuoted style indent (!place.isKey) cs
  | .double => s.doubleQuoted style indent (!place.isKey) cs
  | .literal => s.literal indent cs

def isSimpleKey (shared placed : List Nat) (unicode : Bool) (k : Node) : Bool :=
  let name := ((nameOf? shared k.label).map String.length).getD 0
  let tag := k.tag.shorthand.length
  if k.label.any (fun l => shared.contains l && placed.contains l) then name < 128
  else match k with
    | .scalar _ _ text =>
      let a := Analysis.of unicode text.toList
      name + tag + text.length < 128 && !a.isEmpty && !a.multiline
    | .seq _ _ items => name + tag < 128 && items.isEmpty
    | .map _ _ entries => name + tag < 128 && entries.isEmpty
    | .link _ => false

def writeAnchor (shared : List Nat) (label : Option Nat) (s : Sheet) : Sheet :=
  match label, nameOf? shared label with
  | some l, some name => { s.indicator ("&" ++ name) true false with placed := l :: s.placed }
  | _, _ => s

def reference? (shared : List Nat) (label : Option Nat) (s : Sheet) : Option String :=
  if label.any s.placed.contains then (nameOf? shared label).map ("*" ++ ·) else none

mutual

def writeNode (style : Style) (shared : List Nat) (place : Place) :
    Node → Sheet → Sheet
  | .scalar label tag text, s =>
    match reference? shared label s with
    | some name => s.indicator name true false
    | none => writeScalar style place tag text (writeAnchor shared label s)
  | .seq label tag items, s =>
    match reference? shared label s with
    | some name => s.indicator name true false
    | none =>
      let s := writeAnchor shared label s
      let s := if tag == .seq then s else s.indicator tag.shorthand true false
      if items.isEmpty then (s.indicator "[" true false).indicator "]" false false
      else
        -- The items of a list in a mapping start where its keys do.
        let indent := if place.inMap && !s.fresh then place.indent.getD 0 else deeper place.indent
        writeItems style shared indent items s
  | .map label tag entries, s =>
    match reference? shared label s with
    | some name => s.indicator name true false
    | none =>
      let s := writeAnchor shared label s
      let s := if tag == .map then s else s.indicator tag.shorthand true false
      if entries.isEmpty then (s.indicator "\x7b" true false).indicator "\x7d" false false
      else writeEntries style shared (deeper place.indent) entries s
  | .link label, s => s.indicator ((reference? shared (some label) s).getD "*") true false

def writeItems (style : Style) (shared : List Nat) (indent : Nat) :
    List Node → Sheet → Sheet
  | [], s => s
  | n :: ns, s =>
    let s := (s.toIndent indent).indicator "-" true true
    writeItems style shared indent ns (writeNode style shared ⟨some indent, false, false⟩ n s)

def writeEntries (style : Style) (shared : List Nat) (indent : Nat) : Pairs → Sheet → Sheet
  | [], s => s
  | (k, v) :: rest, s =>
    let s := s.toIndent indent
    let s :=
      if isSimpleKey shared s.placed style.unicode k then
        (writeNode style shared ⟨some indent, true, true⟩ k s).indicator ":" false false
      else
        ((writeNode style shared ⟨some indent, true, false⟩ k
          (s.indicator "?" true true)).toIndent indent).indicator ":" true true
    writeEntries style shared indent rest
      (writeNode style shared ⟨some indent, true, false⟩ v s)

end

def writeDocument (style : Style) (n : Node) : String :=
  let shared := (meetNode n ⟨[], []⟩).shared
  ((writeNode style shared ⟨none, false, false⟩ n Sheet.empty).toIndent 0).out

def write (style : Style) (v : Value) : String := writeDocument style (Node.ofValue v)

/-- The text of a document, unless a number in it cannot be written. -/
def dump (style : Style) (n : Node) : Try String :=
  if n.holdsLong then .error (.refused Decimal.longWhole) else .ok (writeDocument style n)

end Huntbook.Yaml
