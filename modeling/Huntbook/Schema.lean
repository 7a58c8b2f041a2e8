import Huntbook.Text.Pattern
import Huntbook.Value.Order

/-!
# Schemas

A schema is a mapping whose entries are rules for values, in the order in which they are written
down; true is a schema that every value follows, and false one that none does.
-/

namespace Huntbook.Schema

/-- A complaint, and the path of what it is about. -/
structure Failure where
  message : String
  path : List Value
  fits : Bool

namespace Failure

def under (step : Value) (f : Failure) : Failure := { f with path := step :: f.path }

def tellsLess (f g : Failure) : Try Bool :=
  if f.path.length != g.path.length then .ok (g.path.length < f.path.length)
  else if !Value.sameAll f.path g.path then Value.less (.list f.path) (.list g.path)
  else .ok (f.fits && !g.fits)

def most? (failures : List Failure) : Try (Option Failure) :=
  failures.foldlM (fun best f => do
    match best with
    | none => return some f
    | some old => if ← tellsLess old f then return some f else return some old) none

end Failure

/-! ## Rules about a value itself -/

mutual

def equal : Value → Value → Bool
  | .bool a, .bool b => a == b
  | .bool _, _ => false
  | _, .bool _ => false
  | .list xs, .list ys => equalAll xs ys
  | .map xs, .map ys => xs.length == ys.length && equalEntries ys xs
  | a, b => a.same b

def equalAll : List Value → List Value → Bool
  | [], [] => true
  | x :: xs, y :: ys => equal x y && equalAll xs ys
  | _, _ => false

def equalEntries (others : Entries) : Entries → Bool
  | [] => true
  | (k, v) :: rest => (Value.find? others k).any (equal v) && equalEntries others rest

end

def hasRepeats : List Value → Bool
  | [] => false
  | v :: vs => vs.any (equal v) || hasRepeats vs

def hasShape (v : Value) : String → Bool
  | "string" => v.kind == .text
  | "object" => v.kind == .map
  | "array" => v.kind == .list
  | "boolean" => v.kind == .bool
  | "null" => v.kind == .null
  | "number" => v.kind == .int || v.kind == .float
  | "integer" => (Value.number? v).any fun
    | .inl _ => v.kind == .int
    | .inr x => (Decimal.whole? x).isSome
  | _ => false

def shapeNames : Value → List Value
  | .list names => names
  | name => [name]

def isShaped (named v : Value) : Bool :=
  (shapeNames named).any fun name => name.text?.any (hasShape v)

def isBelow (a b : Value) : Bool :=
  match Value.number? a, Value.number? b with
  | some x, some y => Value.lessNumber x y
  | _, _ => false

def isWithin (least strict : Bool) (limit v : Value) : Bool :=
  let (low, high) := if least then (limit, v) else (v, limit)
  !(isBelow high low || (strict && low.same high))

def boundComplaints (least strict : Bool) (limit v : Value) : Texts :=
  if !hasShape v "number" || isWithin least strict limit v then []
  else [v.shown ++ (if least then " is less than " else " is greater than ")
    ++ (if strict then "or equal to " else "")
    ++ (if least then "the minimum of " else "the maximum of ") ++ limit.shown]

def sizeComplaints (least : Bool) (limit v : Value) (size : Nat) : Texts :=
  let things := v.kind == .map
  if isWithin least false limit (.int size) then []
  else [v.shown ++ " " ++
    if least then
      if limit.same (.int 1) then "should be non-empty"
      else if things then "does not have enough properties" else "is too short"
    else if limit.same (.int 0) then "is expected to be empty"
    else if things then "has too many properties" else "is too long"]

/-- What one rule says against a value. Words of other rules are passed over. -/
def complaints (v : Value) (word : String) (rule : Value) : Texts :=
  match word, rule, v with
  | "type", named, v =>
    if isShaped named v then []
    else [v.shown ++ " is not of type " ++ ", ".intercalate ((shapeNames named).map Value.shown)]
  | "enum", .list values, v =>
    if values.any (equal v) then [] else [v.shown ++ " is not one of " ++ (Value.list values).shown]
  | "const", c, v => if equal v c then [] else [c.shown ++ " was expected"]
  | "minimum", limit, v => boundComplaints true false limit v
  | "maximum", limit, v => boundComplaints false false limit v
  | "exclusiveMinimum", limit, v => boundComplaints true true limit v
  | "exclusiveMaximum", limit, v => boundComplaints false true limit v
  | "minLength", limit, .text s => sizeComplaints true limit v s.length
  | "maxLength", limit, .text s => sizeComplaints false limit v s.length
  | "minItems", limit, .list items => sizeComplaints true limit v items.length
  | "maxItems", limit, .list items => sizeComplaints false limit v items.length
  | "minProperties", limit, .map entries => sizeComplaints true limit v entries.length
  | "maxProperties", limit, .map entries => sizeComplaints false limit v entries.length
  | "uniqueItems", rule, .list items =>
    if rule.truthy && hasRepeats items then [v.shown ++ " has non-unique elements"] else []
  | "pattern", .text source, .text s =>
    if (Text.Pattern.ofText? source).all (·.search s) then []
    else [v.shown ++ " does not match " ++ Text.quoted source]
  | "required", .list names, .map entries =>
    (names.filter fun n => (Value.find? entries n).isNone).map fun n =>
      n.shown ++ " is a required property"
  | _, _, _ => []

/-! ## Schemas for parts -/

def placed (schema step : Value) (failures : List Failure) : List Failure :=
  if schema.kind == .bool then failures else failures.map (·.under step)

mutual

def failures : Value → Value → List Failure
  | .bool allowed, v =>
    if allowed then [] else [⟨"False schema does not allow " ++ v.shown, [], false⟩]
  | .map rules, v => ruleFailures ((Value.find? rules (.text "type")).any (isShaped · v)) rules v
  | _, _ => []

def ruleFailures (fits : Bool) : Entries → Value → List Failure
  | [], _ => []
  | (word, rule) :: rest, v =>
    (match word, rule, v with
      | .text "properties", .map schemas, .map fields => fieldFailures schemas fields
      | .text "items", schema, .list items =>
        items.zipIdx.flatMap fun x => placed schema (.int x.2) (failures schema x.1)
      | .text word, rule, v => (complaints v word rule).map fun message => ⟨message, [], fits⟩
      | _, _, _ => []) ++ ruleFailures fits rest v

def fieldFailures : Entries → Entries → List Failure
  | [], _ => []
  | (name, schema) :: rest, fields =>
    (match Value.find? fields name with
      | some v => placed schema name (failures schema v)
      | none => []) ++ fieldFailures rest fields

end

def complaint? (schema v : Value) : Try (Option String) :=
  return (← Failure.most? (failures schema v)).map (·.message)

end Huntbook.Schema
