import Huntbook.Text.Word

/-!
# Emphasis

Asterisks, underscores and tildes around words emphasise them. Which of these signs belong
together depends on what stands beside them and on the lengths of their runs; signs without a
partner are text.
-/

namespace Huntbook.Markdown

def isSpaceBeside (c : Char) : Bool :=
  (9 ≤ c.toNat && c.toNat ≤ 13) || c.toNat == 0x20 || c.toNat == 0xA0 || c.toNat == 0x1680
    || (0x2000 ≤ c.toNat && c.toNat ≤ 0x200A) || c.toNat == 0x202F || c.toNat == 0x205F
    || c.toNat == 0x3000

/-- Whether a run of signs between two characters may open emphasis, and whether it may close
    it. It opens before what is not blank and closes after what is not blank, and punctuation
    counts only beside blanks or punctuation. With `words`, it may do so inside a word. -/
def flanks (words : Bool) (before after : Char) : Bool × Bool :=
  let left := !(isSpaceBeside after
    || (Text.isPunctuation after && !(isSpaceBeside before || Text.isPunctuation before)))
  let right := !(isSpaceBeside before
    || (Text.isPunctuation before && !(isSpaceBeside after || Text.isPunctuation after)))
  if words then (left, right)
  else (left && (!right || Text.isPunctuation before), right && (!left || Text.isPunctuation after))

/-- A sign that may start or end emphasis. -/
structure Sign where
  char : Char
  (length run : Nat)
  (opens closes : Bool)
  deriving DecidableEq, Inhabited

structure Pairing where
  signs : Array Sign
  paired : Array Bool
  /-- How many signs before a sign are passed over, because they can open nothing any more. -/
  passed : Array Nat
  /-- Below these places there is no partner, for each character and remainder of length. -/
  bounds : List ((Char × Nat) × Nat)
  header : Nat
  run : Option Nat

namespace Pairing

/-- Whether two signs may be partners: where one of them could be both, the lengths of their runs
    do not add up to a multiple of three, unless both are one. -/
def fits (opener closer : Sign) : Bool :=
  !((opener.closes || closer.opens) && (opener.length + closer.length) % 3 == 0
    && (opener.length % 3 != 0 || closer.length % 3 != 0))

def opener? (p : Pairing) (closer : Sign) (bound : Nat) : Nat → Nat → Option Nat
  | 0, _ => none
  | _, 0 => none
  | n + 1, top + 1 =>
    if top < bound then none
    else
      let opener := p.signs.getD top default
      if opener.char == closer.char && opener.opens && !p.paired.getD top false
        && fits opener closer then some top
      else opener? p closer bound n (top - p.passed.getD top 0)

def boundKey (s : Sign) : Char × Nat := (s.char, (if s.opens then 3 else 0) + s.length % 3)

def step (p : Pairing) (i : Nat) : Pairing :=
  let closer := p.signs.getD i default
  let sameRun := p.run == some closer.run && (p.signs.getD p.header default).char == closer.char
  let header := if sameRun then p.header else i
  let p := { p with header, run := some closer.run }
  if !closer.closes then p
  else
    let bound := ((p.bounds.find? (·.1 == boundKey closer)).map (·.2)).getD 0
    let top := header - p.passed.getD header 0
    match p.opener? closer bound (i + 1) top with
    | some o =>
      let before := p.signs.getD (o - 1) default
      let more := if o > 0 && !before.opens then p.passed.getD (o - 1) 0 + 1 else 0
      let opener := p.signs.getD o default
      { p with
        signs := (p.signs.setIfInBounds i { closer with opens := false }).setIfInBounds o
          { opener with closes := false }
        paired := (p.paired.setIfInBounds i true).setIfInBounds o true
        passed := (p.passed.setIfInBounds i (i - o + more)).setIfInBounds o more
        run := none }
    | none =>
      if top == 0 then p
      else { p with bounds := (boundKey closer, top) :: p.bounds.filter (·.1 != boundKey closer) }

end Pairing

def partnered (signs : Array Sign) : Array Bool :=
  let none := Array.replicate signs.size false
  let start : Pairing := ⟨signs, none, Array.replicate signs.size 0, [], 0, .none⟩
  ((List.range signs.size).foldl Pairing.step start).paired

end Huntbook.Markdown
