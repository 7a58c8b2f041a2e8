import Huntbook.Store.Statement.Evaluate
import Huntbook.Store.Statement.Grammar

/-!
# Change statements

The text of a statement that changes rows, from the first assignment on: columns with what they get,
and which rows are meant.
-/

namespace Huntbook.Store

/-- What an update does to a table. -/
structure Change where
  sets : List (Texts × Expr)
  condition : Option Expr
  sources : List Source := []
  order : List (Expr × Bool) := []
  limit : Option Expr := none
  offset : Option Expr := none
  outputs : List Output := []
  slots : Nat
  more : Bool := false

namespace Change

open Grammar

def targets (n : Nat) : Reading Texts :=
  match n with
  | 0 => stuck
  | n + 1 => do
    let c ← name
    if ← skipSign "," then return c :: (← targets n) else return [c]

def assignment (n h : Nat) : Reading (Texts × Expr) := do
  let columns ← if ← skipSign "(" then do
      let cs ← targets n
      sign ")"
      pure cs
    else do pure [← name]
  let several := columns.length != 1
  if !(← skipSign "=") then sign "=="
  let e ← expr n (if several then h + 4 else h + 2) 0
  match e with
  | .query _ => return (columns, e)
  | e =>
    if several && e.width != columns.length then throw (.assignedWidth columns.length e.width)
    return (columns, e)

def assignments : Nat → Nat → Reading (List (Texts × Expr))
  | 0, _ => stuck
  | n + 1, h => do
    let a ← assignment (n + 1) h
    if ← skipSign "," then return a :: (← assignments n 9) else return [a]

def statement (n : Nat) : Reading Change := do
  let sets ← assignments n 7
  let sources ← if ← skipWord "from" then Grammar.sources n 10 false else pure []
  let condition ← if ← skipWord "where" then some <$> expr n 10 0 else pure none
  let outputs ← if ← skipWord "returning" then Grammar.outputs n 12 else pure []
  let order ← if ← skipWord "order" then (do word "by"; orders n 12) else pure []
  let (limit, offset) ← if ← skipWord "limit" then do
      let a ← expr n 12 0
      if ← skipWord "offset" then pure (some a, some (← expr n 14 0))
      else if ← skipSign "," then pure (some (← expr n 14 0), some a)
      else pure (some a, none)
    else pure (none, none)
  if !(← skipSign ";") then
    if !(← get).rest.isEmpty then stuck
  let p ← get
  return { sets, condition, sources, order, limit, offset, outputs, slots := p.slots, more := !p.rest.isEmpty }

def read (s : String) : Except Error Change := do
  if Text.holdsHalf s then throw (.unencodable s)
  if s.toList.contains '\x00' then throw .nullCharacter
  let tokens := Token.ofText s
  return (← (statement (8 * tokens.length + 64)).run { rest := tokens }).1

def text (columns : Texts) : String :=
  ", ".intercalate (columns.map fun c => c ++ " = ?")
    ++ ", updated_at = CURRENT_TIMESTAMP WHERE id = ?"

def plain (columns : Texts) : Change where
  sets := (columns.zipIdx.map fun (c, i) => ([c], .slot (i + 1)))
    ++ [(["updated_at"], .clock .stamp)]
  condition := some (.binary .eq (.column ["id"] .plain) (.slot (columns.length + 1)))
  slots := columns.length + 1

def ofColumns (t : Table) (columns : Texts) : Except Error Change :=
  if !columns.isEmpty && columns.all fun c => t.columns.any (·.name == c) then .ok (plain columns)
  else read (text columns)

/-- A change checked against a table: every name in it is known, and every expression gives as many
    values as are expected. -/
def check (change : Change) (s : Scope) (t : Table) : Except Error Unit := do
  if !change.order.isEmpty && change.limit.isNone then throw .orderWithoutLimit
  let inner := s.inside (Bound.ofTable t t.name :: (← Query.bounds deepest s change.sources))
  for (columns, e) in change.sets do
    for c in columns do
      let _ ← e.check .names deepest inner false
      if (t.column? c).isNone then throw (.noColumn c)
  let tests := change.condition.toList ++ change.limit.toList ++ change.offset.toList
  for e in tests do
    let _ ← e.check .names deepest inner false
  for o in change.outputs do
    match o with
    | .one e _ => let _ ← e.check .names deepest inner false
    | _ => pure ()
  for (columns, e) in change.sets do
    let k ← e.check .widths deepest inner false
    if k != columns.length then
      throw (if columns.length == 1 then misused e k 1 else .assignedWidth columns.length k)
  for e in tests do
    let k ← e.check .widths deepest inner false
    if k != 1 then throw (misused e k 1)
  if change.more then throw .several

def cellsOf (s : Scope) (e : Expr) : Except Error (List Cell) := do
  return (← e.operands deepest s).map (·.cell)

def assignTo (t : Table) (inner : Scope) (new : Row) (set : Texts × Expr) :
    Except Error Row := do
  let cells ← cellsOf inner set.2
  (set.1.zip cells).foldlM (fun (new : Row) (c, cell) =>
    match t.column? c with
    | none => .error (.noColumn c)
    | some (name, leaning) =>
      let cell := leaning.apply cell
      if name == "id" then
        match cell.whole? with
        | some id => .ok { new with id := id }
        | none => .error .keyMismatch
      else .ok (new.set name cell)) new

def assign (change : Change) (s : Scope) (t : Table) (beside : List Bound) (r : Row) :
    Except Error Row :=
  change.sets.foldlM (assignTo t (s.inside (Bound.ofRow t t.name r :: beside))) r

def matched (change : Change) (s : Scope) (t : Table) : Except Error (List (Row × List Bound)) := do
  let besides ← Query.joined deepest s change.sources
  let found ← t.rows.mapM fun r => do
    let fitting ← match change.condition with
      | none => pure besides
      | some e => besides.filterM fun beside => do
        return (← e.eval deepest (s.inside (Bound.ofRow t t.name r :: beside))).truth? == some true
    return fitting.getLast?.map (r, ·)
  return found.filterMap id

def chosen (change : Change) (s : Scope) (t : Table) : Except Error (List (Row × List Bound)) := do
  let rows ← change.matched s t
  let keyed ← rows.mapM fun (r, beside) => do
    let scope := s.inside (Bound.ofRow t t.name r :: beside)
    return (← change.order.mapM fun (e, _) => e.eval deepest scope, r, beside)
  let falling := change.order.map (·.2)
  let sorted := if change.order.isEmpty then keyed
    else keyed.mergeSort fun a b => rowOrder falling a.1 b.1 != .gt
  let limit ← change.limit.mapM (Expr.eval deepest s)
  let offset ← change.offset.mapM (Expr.eval deepest s)
  limited limit offset (sorted.map (·.2))

def run (change : Change) (tables : List Table) (now : Moment) (t : Table) (values : List Value) :
    Except Error (Nat × Table) := do
  let s : Scope := { tables, now }
  change.check s t
  if change.slots != values.length then throw (.wrongCount change.slots values.length)
  let s := { s with slots := ← Cell.ofValues values }
  let rows ← change.chosen s t
  let t' ← rows.foldlM (fun t (r, beside) => do t.replace r.id (← change.assign s t beside r)) t
  if !change.outputs.isEmpty && !rows.isEmpty then throw .unread
  return (rows.length, t')

end Change

end Huntbook.Store
