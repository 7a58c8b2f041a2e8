import Huntbook.Store.Statement.Expr

/-!
# The grammar of statements

Pieces of a statement read as expressions and queries. A statement is refused at the first piece
with which no statement can go on.
-/

namespace Huntbook.Store

/-- What is left of a statement, and the slots met so far. -/
structure Pending where
  rest : List Token
  slots : Nat := 0
  names : List (String × Nat) := []

abbrev Reading := StateT Pending (Except Error)

namespace Grammar

def stuck {α : Type} : Reading α := do
  match (← get).rest with
  | [] => throw .incomplete
  | .bad raw :: _ => throw (.badPiece raw)
  | t :: _ => throw (.badStatement t.raw)

def peek : Reading (Option Token) := return (← get).rest.head?

def peekSecond : Reading (Option Token) := return ((← get).rest.drop 1).head?

def skip : Reading Unit := modify fun p => { p with rest := p.rest.drop 1 }

def atSign (s : String) : Reading Bool := do
  match ← peek with
  | some (.sign t) => return t == s
  | _ => return false

def atWord (w : String) : Reading Bool := do
  match ← peek with
  | some t => return t.isWord w
  | none => return false

def skipSign (s : String) : Reading Bool := do
  if ← atSign s then skip; return true else return false

def skipWord (w : String) : Reading Bool := do
  if ← atWord w then skip; return true else return false

def sign (s : String) : Reading Unit := do
  if !(← skipSign s) then stuck

def word (w : String) : Reading Unit := do
  if !(← skipWord w) then stuck

def name : Reading String := do
  match (← peek).bind Token.name? with
  | some s => skip; return s
  | none => stuck

def label? : Reading (Option String) := do
  match ← peek with
  | some (.text s _) => skip; return some s
  | some t =>
    match t.id? with
    | some s => skip; return some s
    | none => return none
  | none => return none

def most : Nat := 99

def room (h : Nat) : Reading Unit := if h > most then throw .tooNested else pure ()

def slot (raw : String) : Reading Expr := do
  let p ← get
  let fresh := p.slots + 1
  if raw == "?" then
    set { p with slots := fresh }
    return .slot fresh
  else if raw.startsWith "?" then
    let digits := raw.toList.drop 1
    let n := Decimal.natOf digits
    if n < 1 || n > 250000 then throw .slotNumber
    set { p with
      slots := max n p.slots
      names := if n > p.slots || !(p.names.any (·.2 == n)) then p.names ++ [(raw, n)] else p.names }
    return .slot n
  else
    match p.names.lookup raw with
    | some n => return .slot n
    | none =>
      set { p with slots := fresh, names := p.names ++ [(raw, fresh)] }
      return .slot fresh

def wholeOf (raw : String) : Reading Expr :=
  match raw.toList with
  | '0' :: x :: digits =>
    if x == 'x' || x == 'X' then
      let n := digits.foldl (fun n c => n * 16 + Token.hexValue c) 0
      if (digits.dropWhile (· == '0')).length > 16 then throw (.hexTooLarge raw)
      else return .cell (.int (if (n : Int) > greatestInt then n - 18446744073709551616 else n))
    else return .whole (Decimal.natOf raw.toList)
  | cs => return .whole (Decimal.natOf cs)

def strength? : Token → Option Nat
  | .sign s => match s with
    | "=" | "==" | "<>" | "!=" => some 4
    | "<" | "<=" | ">" | ">=" => some 5
    | "&" | "|" | "<<" | ">>" => some 7
    | "+" | "-" => some 8
    | "*" | "/" | "%" => some 9
    | "||" => some 10
    | _ => none
  | .word w => match w.toLower with
    | "or" => some 1
    | "and" => some 2
    | "not" => some 3
    | "is" | "like" | "glob" | "regexp" | "match" | "between" | "in" | "isnull" | "notnull" =>
      some 4
    | "collate" => some 11
    | _ => none
  | _ => none

def binary? : String → Option Binary
  | "or" => some .or
  | "and" => some .and
  | "=" | "==" => some .eq
  | "<>" | "!=" => some .ne
  | "<" => some .less
  | "<=" => some .lessEq
  | ">" => some .more
  | ">=" => some .moreEq
  | "&" => some .bitAnd
  | "|" => some .bitOr
  | "<<" => some .shiftLeft
  | ">>" => some .shiftRight
  | "+" => some .add
  | "-" => some .sub
  | "*" => some .mul
  | "/" => some .div
  | "%" => some .rem
  | "||" => some .concat
  | _ => none

def styleOf (raw : String) : NameStyle := if raw.startsWith "\"" then .doubtful else .quoted

def clock? : String → Option ClockPart
  | "current_date" => some .date
  | "current_time" => some .time
  | "current_timestamp" => some .stamp
  | _ => none

def signedNumber : Reading Unit := do
  if !(← skipSign "-") then
    let _ ← skipSign "+"
  match ← peek with
  | some (.whole _) => skip
  | some (.real _) => skip
  | _ => stuck

def typeName (n : Nat) : Reading String :=
  match n with
  | 0 => stuck
  | n + 1 => do
    match ← peek with
    | some (.sign "(") =>
      skip
      signedNumber
      if ← skipSign "," then signedNumber
      if !(← atSign ")") then stuck
      skip
      return ""
    | some t =>
      match t with
      | .text s _ => skip; return s ++ " " ++ (← typeName n)
      | t => match t.id? with
        | some s => skip; return s ++ " " ++ (← typeName n)
        | none => return ""
    | none => return ""

def column : Reading Expr := do
  match ← peek with
  | some (.word w) => skip; return .column [w] .plain
  | some (.name s raw) => skip; return .column [s] (styleOf raw)
  | _ => stuck

def path : Reading Expr := do
  let a ← name
  sign "."
  let b ← name
  if ← skipSign "." then
    let c ← name
    return .column [a, b, c] .plain
  else return .column [a, b] .plain

def source : Reading (Bool → Option Expr → Source) := do
  let t ← name
  let t ← if ← skipSign "." then name else pure t
  let a ← if ← skipWord "as" then some <$> name else label?
  return .table t a

mutual

def expr (n h least : Nat) : Reading Expr :=
  match n with
  | 0 => throw .tooDeep
  | n + 1 => do
    let left ← start n h
    operators n h least left

def start (n h : Nat) : Reading Expr :=
  match n with
  | 0 => throw .tooDeep
  | n + 1 => do
    match ← peek with
    | some (.sign s) =>
      match s with
      | "-" => room h; skip; return (← expr n (h + 1) 12).minus
      | "+" => room h; skip; return .unary .plus (← expr n (h + 1) 12)
      | "~" => room h; skip; return .unary .flip (← expr n (h + 1) 12)
      | "(" =>
        room h
        skip
        if ← atWord "select" then
          let q ← query n (h + 1)
          sign ")"
          return .query q
        else
          let items ← expressions n (h + 1)
          room (h + 2)
          sign ")"
          match items with
          | [e] => return e
          | items => return .row items
      | _ => stuck
    | some (.text s _) =>
      room h
      match ← peekSecond with
      | some (.sign ".") => path
      | _ => skip; return .cell (.text s)
    | some (.whole raw) => room h; skip; wholeOf raw
    | some (.real raw) => room h; skip; return .cell (.real (scan raw.toList).value)
    | some (.bytes data _) => room h; skip; return .cell (.blob data)
    | some (.slot raw) =>
      if raw.startsWith "#" && ((raw.toList.drop 1).head?.any Char.isDigit) then stuck
      room h
      skip
      slot raw
    | some (.word w) => room h; worded n h w.toLower
    | some (.name _ _) => room h; named n h
    | _ => stuck

def worded (n h : Nat) (w : String) : Reading Expr :=
  match n with
  | 0 => throw .tooDeep
  | n + 1 => do
    match w with
    | "not" => skip; return .unary .not (← expr n (h + 1) 3)
    | "null" => skip; return .cell .null
    | "case" => skip; choice n (h + 1)
    | "cast" =>
      skip
      sign "("
      let e ← expr n (h + 2) 0
      word "as"
      let type ← typeName 64
      sign ")"
      return .cast e type
    | "exists" =>
      skip
      sign "("
      if !(← atWord "select") then stuck
      let q ← query n (h + 2)
      sign ")"
      return .found q
    | w =>
      match clock? w with
      | some part => skip; return .clock part
      | none => if Token.reserved.contains w then stuck else named n h

def named (n h : Nat) : Reading Expr :=
  match n with
  | 0 => throw .tooDeep
  | n + 1 => do
    match ← peekSecond with
    | some (.sign ".") => path
    | some (.sign "(") =>
      match (← peek).bind Token.id? with
      | some f =>
        skip
        skip
        if ← skipSign "*" then
          sign ")"
          return .call f [] false true
        else
          let distinct ← skipWord "distinct"
          let _ ← if distinct then pure false else skipWord "all"
          let args ← if ← atSign ")" then pure [] else expressions n (h + 3)
          sign ")"
          return .call f args distinct false
      | none => column
    | _ => column

def choice (n h : Nat) : Reading Expr :=
  match n with
  | 0 => throw .tooDeep
  | n + 1 => do
    room h
    let operand ← if ← atWord "when" then pure none else some <$> expr n h 0
    if !(← atWord "when") then stuck
    let branches ← branches n (h + 1)
    let otherwise ← if ← skipWord "else" then some <$> expr n (h + 3) 0 else pure none
    word "end"
    return .choice operand branches otherwise

def branches (n h : Nat) : Reading (List (Expr × Expr)) :=
  match n with
  | 0 => throw .tooDeep
  | n + 1 => do
    if ← skipWord "when" then
      let c ← expr n (h + 1) 0
      word "then"
      let e ← expr n (h + 3) 0
      return (c, e) :: (← branches n (h + 1))
    else return []

def expressions (n h : Nat) : Reading (List Expr) :=
  match n with
  | 0 => throw .tooDeep
  | n + 1 => do
    let e ← expr n h 0
    if ← skipSign "," then return e :: (← moreExpressions n h) else return [e]

def moreExpressions (n h : Nat) : Reading (List Expr) :=
  match n with
  | 0 => throw .tooDeep
  | n + 1 => do
    let e ← expr n (h + 2) 0
    if ← skipSign "," then return e :: (← moreExpressions n h) else return [e]

def operators (n h least : Nat) (left : Expr) : Reading Expr :=
  match n with
  | 0 => throw .tooDeep
  | n + 1 => do
    match ← peek with
    | none => return left
    | some t =>
      match strength? t with
      | none => return left
      | some k =>
        if k < least then return left
        else
          room (h + 1)
          let whole ← operator n h k t.raw.toLower left
          operators n h least whole

def operator (n h k : Nat) (op : String) (left : Expr) : Reading Expr :=
  match n with
  | 0 => throw .tooDeep
  | n + 1 => do
    match op with
    | "collate" =>
      skip
      match ← peek with
      | some (.text s _) => skip; return .collate left s
      | some t => match t.id? with
        | some s => skip; return .collate left s
        | none => stuck
      | none => stuck
    | "isnull" => skip; return .unary .isNull left
    | "notnull" => skip; return .unary .notNull left
    | "is" =>
      skip
      let denied ← skipWord "not"
      let distinct ← if ← skipWord "distinct" then (do word "from"; pure true) else pure false
      let right ← expr n (h + 2) 5
      return .binary (if denied == distinct then .is else .isNot) left right
    | "not" =>
      skip
      if ← skipWord "null" then return .unary .notNull left
      else match ← peek with
        | some (.word w) =>
          if ["like", "glob", "regexp", "match", "between", "in"].contains w.toLower then
            return .unary .not (← test n h w.toLower left)
          else stuck
        | _ => stuck
    | op =>
      match binary? op with
      | some b => skip; return .binary b left (← expr n (h + 2) (k + 1))
      | none => test n h op left

def test (n h : Nat) (op : String) (left : Expr) : Reading Expr :=
  match n with
  | 0 => throw .tooDeep
  | n + 1 => do
    let written := ((← peek).map Token.raw).getD ""
    match op with
    | "between" =>
      skip
      let low ← middle n (h + 2) (← expr n (h + 2) 3)
      word "and"
      return .between left low (← expr n (h + 4) 5)
    | "in" =>
      skip
      if ← skipSign "(" then
        if ← atWord "select" then
          let q ← query n (h + 3)
          sign ")"
          return .amongRows left q
        else
          let items ← if ← atSign ")" then pure [] else expressions n (h + 3)
          sign ")"
          return .among left items
      else
        let a ← name
        let table ← if ← skipSign "." then name else pure a
        return .amongRows left (.select [.all] [.table table none false none] none)
    | _ =>
      skip
      let pattern ← expr n (h + 2) 5
      if ← skipWord "escape" then
        return .apply written [pattern, left, ← expr n (h + 4) 5]
      else return .apply written [pattern, left]

def middle (n h : Nat) (left : Expr) : Reading Expr :=
  match n with
  | 0 => throw .tooDeep
  | n + 1 => do
    if ← skipWord "or" then
      let right ← expr n (h + 2) 2
      middle n h (.binary .or left right)
    else return left

def query (n h : Nat) : Reading Query :=
  match n with
  | 0 => throw .tooDeep
  | n + 1 => do
    let q ← single n h
    let order ← if ← skipWord "order" then (do word "by"; orders n (h + 3)) else pure []
    if ← skipWord "limit" then
      let limit ← expr n (h + 2) 0
      if ← skipWord "offset" then
        return .ordered q order (some limit) (some (← expr n (h + 4) 0))
      else if ← skipSign "," then
        return .ordered q order (some (← expr n (h + 4) 0)) (some limit)
      else return .ordered q order (some limit) none
    else if order.isEmpty then return q
    else return .ordered q order none none

def single (n h : Nat) : Reading Query :=
  match n with
  | 0 => throw .tooDeep
  | n + 1 => do
    room h
    word "select"
    let _ ← skipWord "all"
    let outputs ← outputs n (h + 4)
    let sources ← if ← skipWord "from" then sources n (h + 4) false else pure []
    let condition ← if ← skipWord "where" then some <$> expr n (h + 5) 0 else pure none
    return .select outputs sources condition

def outputs (n h : Nat) : Reading (List Output) :=
  match n with
  | 0 => throw .tooDeep
  | n + 1 => do
    let o ← output n h
    if ← skipSign "," then return o :: (← outputs n h) else return [o]

def output (n h : Nat) : Reading Output :=
  match n with
  | 0 => throw .tooDeep
  | n + 1 => do
    if ← skipSign "*" then return .all
    else
      let e ← expr n h 0
      if ← skipWord "as" then return .one e (some (← name))
      else return .one e (← label?)

def sources (n h : Nat) (outer : Bool) : Reading (List Source) :=
  match n with
  | 0 => throw .tooDeep
  | n + 1 => do
    let make ← source
    let on ← if ← skipWord "on" then some <$> expr n (h + 6) 0 else pure none
    let s := make outer on
    if ← skipSign "," then return s :: (← sources n h false)
    else if ← skipWord "join" then return s :: (← sources n h false)
    else if (← atWord "cross") || (← atWord "inner") then
      skip
      word "join"
      return s :: (← sources n h false)
    else if ← skipWord "left" then
      let _ ← skipWord "outer"
      word "join"
      return s :: (← sources n h true)
    else return [s]

def orders (n h : Nat) : Reading (List (Expr × Bool)) :=
  match n with
  | 0 => throw .tooDeep
  | n + 1 => do
    let e ← expr n h 0
    let falling ← skipWord "desc"
    let _ ← if falling then pure false else skipWord "asc"
    if ← skipSign "," then return (e, falling) :: (← orders n h) else return [(e, falling)]

end

end Grammar

end Huntbook.Store
