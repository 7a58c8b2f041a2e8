import Huntbook.Store.Statement.Check

/-!
# The values of expressions

Expressions that have passed the checks fail only where a calculation does.
-/

namespace Huntbook.Store

/-- A value, and how it is to be compared. -/
structure Operand where
  affinity : Affinity
  order : Option String
  cell : Cell

def Operand.comparison (a b : Operand) : Except Error Comparison := do
  return ⟨a.affinity.meet b.affinity, ← sortingOf (a.order.or b.order)⟩

def Operand.compareAll (op : Binary) (as bs : List Operand) : Except Error (Option Bool) := do
  let pairs ← (as.zip bs).mapM fun (a, b) => do return (← a.comparison b, a.cell, b.cell)
  return op.compareAll pairs

def Operand.amongRows (as : List Operand) (rows : List (List Operand)) :
    Except Error (Option Bool) :=
  rows.foldlM (fun found row => do
    return eitherTrue found (← Operand.compareAll .eq as row)) (some false)

def distinctRows (rows : List (List Cell)) : List (List Cell) :=
  let same (a b : List Cell) : Bool :=
    a.length == b.length && (a.zip b).all fun (x, y) => Sorting.plain.compare x y == .eq
  (rows.foldl (fun kept r => if kept.any (same r) then kept else r :: kept) []).reverse

def rowOrder : List Bool → List Cell → List Cell → Ordering
  | falling, a :: as, b :: bs =>
    match Sorting.plain.compare a b with
    | .eq => rowOrder (falling.drop 1) as bs
    | o => if falling.headD false then o.swap else o
  | _, _, _ => .eq

def limited {α : Type} (limit offset : Option Cell) (items : List α) : Except Error (List α) := do
  let number (c : Cell) : Except Error Int :=
    match c.whole? with
    | some n => .ok n
    | none => .error .keyMismatch
  match limit with
  | none => return items
  | some limit =>
    let n ← number limit
    let k ← match offset with
      | some c => number c
      | none => pure 0
    let rest := items.drop k.toNat
    return if n < 0 then rest else rest.take n.toNat

mutual

def Expr.eval (n : Nat) (s : Scope) (e : Expr) : Except Error Cell :=
  match n with
  | 0 => .error .tooDeep
  | n + 1 =>
    match e with
    | .cell c => .ok c
    | .whole k => .ok (Cell.ofWhole k)
    | .slot k => .ok (s.slots.getD (k - 1) .null)
    | .clock part =>
      let i := Instant.ofMoment s.now
      .ok (.text (match part with
        | .date => i.dateText
        | .time => i.timeText
        | .stamp => i.stampText))
    | .column path style => do return (← s.column path style).2
    | .unary op e => do return op.apply (← Expr.eval n s e)
    | .collate e _ => Expr.eval n s e
    | .cast e type => do return (CastKind.ofName type).cast (← Expr.eval n s e)
    | .binary op a b => Expr.evalBinary n s op a b
    | .between e low high => do
      let v ← Expr.operands n s e
      let above ← Operand.compareAll .moreEq v (← Expr.operands n s low)
      let below ← Operand.compareAll .lessEq v (← Expr.operands n s high)
      return Cell.ofTruth? (bothTrue above below)
    | .among e items => do
      let v ← Expr.operands n s e
      let rows ← items.mapM fun item => do
        return (← Expr.operands n s item).map fun o => { o with affinity := .none, order := none }
      return Cell.ofTruth? (← Operand.amongRows v rows)
    | .amongRows e q => do
      let v ← Expr.operands n s e
      let columns ← Query.columns n s q
      let rows ← Query.rows n s q
      let rows := rows.map fun r => (columns.zip r).map fun (c, cell) =>
        ({ affinity := c.2, order := none, cell } : Operand)
      return Cell.ofTruth? (← Operand.amongRows v rows)
    | .choice operand branches otherwise => Expr.evalChoice n s operand branches otherwise
    | .call name args distinct _ => Expr.evalCall n s name.toLower args distinct
    | .row _ => .error .rowMisuse
    | .query q => do return (((← Query.rows n s q).headD []).headD .null)
    | .found q => do return Cell.ofBool !(← Query.rows n s q).isEmpty

def Expr.evalBinary (n : Nat) (s : Scope) (op : Binary) (a b : Expr) : Except Error Cell :=
  match n with
  | 0 => .error .tooDeep
  | n + 1 => do
    match op with
    | .or =>
      let x := (← Expr.eval n s a).truth?
      if x == some true then return Cell.ofBool true
      return Cell.ofTruth? (eitherTrue x (← Expr.eval n s b).truth?)
    | .and =>
      let x := (← Expr.eval n s a).truth?
      if x == some false then return Cell.ofBool false
      return Cell.ofTruth? (bothTrue x (← Expr.eval n s b).truth?)
    | .eq | .ne | .less | .lessEq | .more | .moreEq =>
      let v ← Expr.operands n s a
      return Cell.ofTruth? (← Operand.compareAll op v (← Expr.operands n s b))
    | .is | .isNot =>
      match s.truthWord? b with
      | some wanted =>
        let same := (← Expr.eval n s a).truth? == some wanted
        return Cell.ofBool (if op == .is then same else !same)
      | none =>
        let v ← Expr.operands n s a
        return Cell.ofTruth? (← Operand.compareAll op v (← Expr.operands n s b))
    | op =>
      let x ← Expr.eval n s a
      return op.calculate x (← Expr.eval n s b)

def Expr.operands (n : Nat) (s : Scope) (e : Expr) : Except Error (List Operand) :=
  match n with
  | 0 => .error .tooDeep
  | n + 1 => do
    match e with
    | .row items => items.mapM fun e => do
      return ⟨Expr.affinity n s e, Expr.sortingName n e, ← Expr.eval n s e⟩
    | .query q =>
      let columns ← Query.columns n s q
      let row := (← Query.rows n s q).headD []
      return columns.zipIdx.map fun (c, i) => ⟨c.2, none, row.getD i .null⟩
    | e => return [⟨Expr.affinity n s e, Expr.sortingName n e, ← Expr.eval n s e⟩]

def Expr.evalChoice (n : Nat) (s : Scope) (operand : Option Expr) (branches : List (Expr × Expr))
    (otherwise : Option Expr) : Except Error Cell :=
  match n with
  | 0 => .error .tooDeep
  | n + 1 => do
    let chosen? ← branches.findM? fun (c, _) =>
      match operand with
      | some o => do
        let v ← Expr.operands n s o
        return (← Operand.compareAll .eq v (← Expr.operands n s c)) == some true
      | none => do return (← Expr.eval n s c).truth? == some true
    match chosen?, otherwise with
    | some (_, e), _ => Expr.eval n s e
    | none, some e => Expr.eval n s e
    | none, none => return .null

def Expr.evalCall (n : Nat) (s : Scope) (name : String) (args : List Expr) (distinct : Bool) :
    Except Error Cell :=
  match n with
  | 0 => .error .tooDeep
  | n + 1 => do
    let order ← sortingOf (args.findSome? (Expr.sortingName n))
    match Function.find name args.length, s.group with
    | .known .group, some rows =>
      let cells ← rows.mapM fun bounds =>
        args.mapM (Expr.eval n { s with rows := bounds :: s.rows.drop 1, group := none })
      return Function.gather order name (if distinct then distinctRows cells else cells)
    | .known .group, none => throw (.aggregateMisuse name)
    | _, _ => Function.apply { now := s.now, order } name (← args.mapM (Expr.eval n s))

def Query.joined (n : Nat) (s : Scope) (sources : List Source) : Except Error (List (List Bound)) :=
  match n with
  | 0 => .error .tooDeep
  | n + 1 =>
    sources.foldlM (fun (combined : List (List Bound)) source => do
      let .table name label outer on := source
      let some t := s.table? name | throw (.noTable name)
      let name := label.getD name
      let rows := t.rows.map (Bound.ofRow t name)
      let parts ← combined.mapM fun before => do
        let partners ← match on with
          | none => pure (rows.map fun b => before ++ [b])
          | some e =>
            (rows.map fun b => before ++ [b]).filterM fun bounds => do
              return (← Expr.eval n (s.inside bounds) e).truth? == some true
        return if outer && partners.isEmpty then [before ++ [(Bound.ofTable t name).blank]] else partners
      return parts.flatten) [[]]

def Query.keyed (n : Nat) (s : Scope) (order : List Expr) (q : Query) :
    Except Error (List (List Cell × List Cell)) :=
  match n with
  | 0 => .error .tooDeep
  | n + 1 => do
    match q with
    | .select outputs sources condition =>
      let all ← Query.joined n s sources
      let kept ← match condition with
        | none => pure all
        | some e => all.filterM fun bounds => do
          return (← Expr.eval n (s.inside bounds) e).truth? == some true
      let gathers := outputs.any fun o => match o with
        | .one e _ => e.gathers deepest
        | _ => false
      let scopes ← if gathers then do
          let blank := (← Query.bounds n s sources).map Bound.blank
          pure [{ s.inside (kept.headD blank) with group := some kept }]
        else pure (kept.map s.inside)
      scopes.mapM fun inner => do
        let bounds := inner.rows.headD []
        let cells ← outputs.mapM fun o =>
          match o with
          | .all => pure (bounds.flatMap (·.cells))
          | .one e _ => do return [← Expr.eval n inner e]
        let row := cells.flatten
        let keys ← order.mapM fun e =>
          match e with
          | .whole k => pure (row.getD (k - 1) .null)
          | .column [name] _ =>
            let aliased := outputs.findSome? fun o => match o with
              | .one e (some a) => if a.toLower == name.toLower then some e else none
              | _ => none
            Expr.eval n inner (aliased.getD e)
          | e => Expr.eval n inner e
        return (keys, row)
    | .ordered q inner limit offset =>
      return (← Query.rows n s (.ordered q inner limit offset)).map fun r =>
        (order.map (position r), r)
where
  position (r : List Cell) (e : Expr) : Cell :=
    match e with
    | .whole k => r.getD (k - 1) .null
    | _ => r.headD .null

def Query.rows (n : Nat) (s : Scope) (q : Query) : Except Error (List (List Cell)) :=
  match n with
  | 0 => .error .tooDeep
  | n + 1 => do
    match q with
    | .ordered q order limit offset =>
      let rows ← Query.keyed n s (order.map (·.1)) q
      let falling := order.map (·.2)
      let sorted := if order.isEmpty then rows
        else rows.mergeSort fun a b => rowOrder falling a.1 b.1 != .gt
      let outside := { s with rows := s.rows.drop 1 }
      let limit ← limit.mapM (Expr.eval n outside)
      let offset ← offset.mapM (Expr.eval n outside)
      limited limit offset (sorted.map (·.2))
    | q => return (← Query.keyed n s [] q).map (·.2)

end

end Huntbook.Store
