import Huntbook.Store.Statement.Functions
import Huntbook.Store.Statement.Scope

/-!
# Checks of expressions

Before a statement runs, every name in it is looked up, whether it will be used or not, and then
every expression is checked to give as many values as are expected.
-/

namespace Huntbook.Store

/-- What is checked: that names are known, or how many values there are. -/
inductive Stage
  | names | widths
  deriving DecidableEq

def deepest : Nat := 1000

namespace Expr

def width : Expr → Nat
  | .row items => items.length
  | .query (.select outputs _ _) => outputs.length
  | .query (.ordered (.select outputs _ _) _ _ _) => outputs.length
  | _ => 1

def sortingName : Nat → Expr → Option String
  | 0, _ => none
  | n + 1, e =>
    match e with
    | .collate _ order => some order
    | .unary _ e => sortingName n e
    | .binary _ a b => (sortingName n a).or (sortingName n b)
    | .cast e _ => sortingName n e
    | .between e low high => (sortingName n e).or ((sortingName n low).or (sortingName n high))
    | .call _ args _ _ => args.findSome? (sortingName n)
    | .row items => items.findSome? (sortingName n)
    | .choice _ branches otherwise =>
      (branches.findSome? fun (c, e) => (sortingName n c).or (sortingName n e)).or
        (otherwise.bind (sortingName n))
    | _ => none

def gathers : Nat → Expr → Bool
  | 0, _ => false
  | n + 1, e =>
    match e with
    | .collate e _ => gathers n e
    | .unary _ e => gathers n e
    | .binary _ a b => gathers n a || gathers n b
    | .cast e _ => gathers n e
    | .between e low high => gathers n e || gathers n low || gathers n high
    | .among e items => gathers n e || items.any (gathers n)
    | .amongRows e _ => gathers n e
    | .row items => items.any (gathers n)
    | .choice operand branches otherwise =>
      operand.any (gathers n) || (branches.any fun (c, e) => gathers n c || gathers n e)
        || otherwise.any (gathers n)
    | .call name args _ _ =>
      Function.find name.toLower args.length == .known .group || args.any (gathers n)
    | _ => false

end Expr

def sortingOf (name : Option String) : Except Error Sorting :=
  match name with
  | none => .ok .plain
  | some s =>
    match Sorting.ofName? s with
    | some order => .ok order
    | none => .error (.noOrder s)

def misused (e : Expr) (found wanted : Nat) : Error :=
  match e with
  | .query _ => .queryWidth found wanted
  | _ => .rowMisuse

mutual

def Query.bounds (n : Nat) (s : Scope) (sources : List Source) : Except Error (List Bound) :=
  match n with
  | 0 => .error .tooDeep
  | _ + 1 => sources.mapM fun (.table name label _ _) =>
    match s.table? name with
    | some t => .ok (Bound.ofTable t (label.getD name))
    | none => .error (.noTable name)

def Query.columns (n : Nat) (s : Scope) (q : Query) : Except Error (List (String × Affinity)) :=
  match n with
  | 0 => .error .tooDeep
  | n + 1 =>
    match q with
    | .select outputs sources _ => do
      let bounds ← Query.bounds n s sources
      let inner := s.inside bounds
      let parts ← outputs.mapM fun o =>
        match o with
        | .all => if bounds.isEmpty then .error .noSources else .ok (bounds.flatMap (·.columns))
        | .one e label =>
          let name := label.getD (match e with
            | .column path _ => path.getLastD ""
            | _ => "")
          .ok [(name, Expr.affinity n inner e)]
      return parts.flatten
    | .ordered q _ _ _ => Query.columns n s q

def Expr.affinity (n : Nat) (s : Scope) (e : Expr) : Affinity :=
  match n with
  | 0 => .none
  | n + 1 =>
    match e with
    | .column path style =>
      match s.column path style with
      | .ok (a, _) => a
      | .error _ => .none
    | .cast _ type => (CastKind.ofName type).affinity
    | .collate e _ => Expr.affinity n s e
    | .row (e :: _) => Expr.affinity n s e
    | .query q =>
      match Query.columns n s q with
      | .ok ((_, a) :: _) => a
      | _ => .none
    | _ => .none

end

mutual

/-- An expression checked, with the number of values that it gives; `grouped` tells whether
    functions of groups are allowed. -/
def Expr.check (stage : Stage) (n : Nat) (s : Scope) (grouped : Bool) (e : Expr) :
    Except Error Nat :=
  match n with
  | 0 => .error .tooDeep
  | n + 1 => do
    let late := stage == .widths
    let one (e : Expr) : Except Error Unit := do
      let k ← Expr.check stage n s grouped e
      if late && k != 1 then throw (misused e k 1)
    let ordered (es : List Expr) : Except Error Unit := do
      if late then
        let _ ← sortingOf (es.findSome? (Expr.sortingName n))
    match e with
    | .cell _ | .whole _ | .slot _ | .clock _ => return 1
    | .column path style =>
      let _ ← s.column path style
      return 1
    | .unary _ e => one e; return 1
    | .collate e _ => one e; return 1
    | .cast e _ => one e; return 1
    | .binary op a b =>
      match op with
      | .eq | .ne | .less | .lessEq | .more | .moreEq | .is | .isNot =>
        if a.width != b.width then throw .rowMisuse
        let _ ← Expr.check stage n s grouped a
        let _ ← Expr.check stage n s grouped b
        ordered [a, b]
        return 1
      | _ => one a; one b; return 1
    | .between e low high =>
      if e.width != low.width || e.width != high.width then throw .rowMisuse
      let _ ← Expr.check stage n s grouped e
      let _ ← Expr.check stage n s grouped low
      let _ ← Expr.check stage n s grouped high
      ordered [e, low, high]
      return 1
    | .among e items =>
      let k ← Expr.check stage n s grouped e
      for item in items do
        let m ← Expr.check stage n s grouped item
        if late && m != k then
          throw (if k == 1 then misused item m 1 else .itemWidth m k)
      ordered [e]
      return 1
    | .amongRows e q =>
      let k ← Expr.check stage n s grouped e
      let m ← Query.check stage n s q
      if late && k != m then throw (.queryWidth m k)
      ordered [e]
      return 1
    | .choice operand branches otherwise =>
      match operand with
      | some e => let _ ← Expr.check stage n s grouped e
      | none => pure ()
      for (c, e) in branches do
        match operand with
        | some o =>
          let m ← Expr.check stage n s grouped c
          if late && m != o.width then throw .rowMisuse
        | none => one c
        one e
      match otherwise with
      | some e => one e
      | none => pure ()
      return 1
    | .call name args _ star =>
      let known := Function.find name.toLower args.length
      let inner := grouped && known != .known .group
      for e in args do
        let k ← Expr.check stage n s inner e
        if late && k != 1 then throw (misused e k 1)
      match known with
      | .unknown => throw (.noFunction name)
      | .wrongCount => throw (.argumentCount name)
      | .known .group => if !grouped then throw (.aggregateMisuse name)
      | .known .single => pure ()
      if star && name.toLower != "count" && !args.isEmpty then throw (.argumentCount name)
      return 1
    | .row items =>
      for e in items do one e
      return items.length
    | .query q => Query.check stage n s q
    | .found q =>
      let _ ← Query.check stage n s q
      return 1

def Query.check (stage : Stage) (n : Nat) (s : Scope) (q : Query) : Except Error Nat :=
  match n with
  | 0 => .error .tooDeep
  | n + 1 => do
    match q with
    | .select outputs sources condition =>
      let bounds ← Query.bounds n s sources
      let inner := s.inside bounds
      let columns ← Query.columns n s q
      let one (grouped : Bool) (e : Expr) : Except Error Unit := do
        let k ← Expr.check stage n inner grouped e
        if stage == .widths && k != 1 then throw (misused e k 1)
      for o in outputs do
        match o with
        | .one e _ => one true e
        | _ => pure ()
      for source in sources do
        match source with
        | .table _ _ _ (some e) => one false e
        | _ => pure ()
      match condition with
      | some e => one false e
      | none => pure ()
      return columns.length
    | .ordered q _ limit offset =>
      let k ← Query.check stage n s q
      for e in limit.toList ++ offset.toList do
        let _ ← Expr.check stage n { s with rows := [] } false e
      return k

end

end Huntbook.Store
