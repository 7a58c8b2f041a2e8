import Huntbook.Store.Statement.Calculation

/-!
# What expressions can see

An expression sees the tables of the store, the values for its places, the clock, and the rows
that stand around it: those of its own query first, then those of the queries outside.
-/

namespace Huntbook.Store

/-- A row that an expression can name. -/
structure Bound where
  name : String
  columns : List (String × Affinity)
  cells : List Cell := []
  keyed : Bool := false

namespace Bound

def affinityOf : Leaning → Affinity
  | .text => .text
  | .number => .number

def ofTable (t : Table) (name : String) : Bound where
  name := name.toLower
  columns := ("id", .number) :: t.columns.map fun c => (c.name, affinityOf c.leaning)
  keyed := true

def ofRow (t : Table) (name : String) (r : Row) : Bound :=
  { ofTable t name with cells := .int r.id :: t.columns.map fun c => r.get c.name }

def blank (b : Bound) : Bound := { b with cells := b.columns.map fun _ => .null }

def get? (b : Bound) (column : String) : Option (Affinity × Cell) :=
  match b.columns.findIdx? (·.1.toLower == column) with
  | some i => some ((b.columns[i]?.map (·.2)).getD .none, b.cells.getD i .null)
  | none => none

def key? (b : Bound) (column : String) : Option (Affinity × Cell) :=
  if b.keyed && ["rowid", "oid", "_rowid_"].contains column then
    some (.number, b.cells.headD .null)
  else none

end Bound

/-- What an expression is evaluated in. -/
structure Scope where
  tables : List Table
  slots : List Cell := []
  now : Moment
  rows : List (List Bound) := []
  group : Option (List (List Bound)) := none

namespace Scope

def table? (s : Scope) (name : String) : Option Table := s.tables.find? (·.name == name.toLower)

def inside (s : Scope) (bounds : List Bound) : Scope :=
  { s with rows := bounds :: s.rows, group := none }

def among (bounds : List Bound) (path : Texts) : Except Error (Option (Affinity × Cell)) :=
  let (wanted, column) : List Bound × String := match path with
    | [c] => (bounds, c)
    | [t, c] => (bounds.filter (·.name == t.toLower), c)
    | [s, t, c] => (if s.toLower == "main" then bounds.filter (·.name == t.toLower) else [], c)
    | _ => ([], "")
  let column := column.toLower
  match wanted.filterMap (·.get? column) with
  | [found] => .ok (some found)
  | [] =>
    match wanted with
    | [b] => .ok (b.key? column)
    | _ => .ok none
  | _ => .error (.ambiguous (".".intercalate path))

def lookFrom (path : Texts) : List (List Bound) → Except Error (Option (Affinity × Cell))
  | [] => .ok none
  | bounds :: rest => do
    match ← among bounds path with
    | some found => return some found
    | none => lookFrom path rest

def constant? (path : Texts) (style : NameStyle) : Option Cell :=
  match path, style with
  | [c], .plain =>
    match c.toLower with
    | "true" => some (.int 1)
    | "false" => some (.int 0)
    | _ => none
  | [c], .doubtful => some (.text c)
  | _, _ => none

def column (s : Scope) (path : Texts) (style : NameStyle) :
    Except Error (Affinity × Cell) := do
  match ← lookFrom path s.rows with
  | some found => return found
  | none =>
    match constant? path style with
    | some c => return (.none, c)
    | none => throw (.noColumn (".".intercalate path))

def truthWord? (s : Scope) (e : Expr) : Option Bool :=
  match e with
  | .column [c] .plain =>
    match lookFrom [c] s.rows with
    | .ok none =>
      match c.toLower with
      | "true" => some true
      | "false" => some false
      | _ => none
    | _ => none
  | .collate (.column [c] .plain) _ =>
    match lookFrom [c] s.rows with
    | .ok none =>
      match c.toLower with
      | "true" => some true
      | "false" => some false
      | _ => none
    | _ => none
  | _ => none

end Scope

end Huntbook.Store
