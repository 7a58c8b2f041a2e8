import Huntbook.Value.Access
import Huntbook.Text.Finder

/-!
# Escaping in searches

How values of a detection rule are written into a search. Inside a quoted value, backslashes and
double quotes are escaped.
-/

namespace Huntbook.Search

def escapeValueChar (c : Char) : Chars := if c == '\\' || c == '"' then ['\\', c] else [c]

def escapeValue (s : String) : String := String.ofList (s.toList.flatMap escapeValueChar)

def patternSpecials : Chars :=
  ['\\', '.', '^', '$', '*', '+', '?', '\x7b', '\x7d', '[', ']', '|', '(', ')']

def escapePatternChar (c : Char) : Chars :=
  if patternSpecials.contains c then ['\\', c] else [c]

def escapePattern (s : String) : String := String.ofList (s.toList.flatMap escapePatternChar)

def wildcardChar (c : Char) : Chars :=
  if c == '*' then ['.', '*'] else if c == '?' then ['.'] else [c]

/-- A value with wildcards as a pattern: a star for any text and a question mark for any
    character; the rest of the value is taken as a pattern as it stands. -/
def wildcardPattern (s : String) : String := String.ofList (s.toList.flatMap wildcardChar)

def hasWildcard (s : String) : Bool := s.toList.any fun c => c == '*' || c == '?'

/-! ## Clauses

The condition that a single value puts on a field of an event, as a clause of a search. -/

/-- How a field is compared with a value. -/
inductive Comparison
  | pattern | network | contains | startsWith | endsWith | wildcard | equals
  deriving DecidableEq

def Comparison.ofModifiers (modifiers : Texts) (s : String) : Comparison :=
  if modifiers.contains "re" then .pattern
  else if modifiers.contains "cidr" then .network
  else if modifiers.contains "contains" then .contains
  else if modifiers.contains "startswith" then .startsWith
  else if modifiers.contains "endswith" then .endsWith
  else if hasWildcard s then .wildcard
  else .equals

def Comparison.clause (field s : String) : Comparison → String
  | .pattern => s!"match({field}, \"{escapeValue s}\")"
  | .network => s!"cidrmatch(\"{escapeValue s}\", {field})"
  | .contains => s!"match({field}, \"(?i).*{escapePattern s}.*\")"
  | .startsWith => s!"match({field}, \"(?i)^{escapePattern s}.*\")"
  | .endsWith => s!"match({field}, \"(?i).*{escapePattern s}$\")"
  | .wildcard => s!"match({field}, \"(?i){wildcardPattern s}\")"
  | .equals => s!"lower({field})=lower(\"{escapeValue s}\")"

/-- The clause of a value, if its kind has one. No number gets here that is too long. -/
def clause (field : String) (modifiers : Texts) : Value → Option String
  | .null => some s!"isnull({field})"
  | .bool b => some (field ++ "=" ++ if b then "true" else "false")
  | .int n => some s!"{field}={n}"
  | .float x => some s!"{field}={Decimal.text x}"
  | .text s => some ((Comparison.ofModifiers modifiers s).clause field s)
  | _ => none

/-! ## Selections

A selection of a detection rule lists fields with the values they may have. -/

abbrev FieldMap := List (String × Value)

def FieldMap.get? (fields : FieldMap) (name : String) : Option Value :=
  (fields.find? fun f => f.1 == name).map (·.2)

def unmapped (name : String) : String := "UNMAPPED_" ++ name

/-- Fields of events, by the names that rules have for them. -/
def FieldMap.ofNames (names : TextPairs) : FieldMap :=
  names.map fun f => (f.1, .text f.2)

def FieldMap.target (fields : FieldMap) (name : String) : String :=
  match fields.get? name with
  | some v => v.plain
  | none => unmapped name

/-- A key of a selection: a field, and what is to be done with its value. -/
structure FieldRef where
  name : String
  modifiers : Texts

def FieldRef.ofText (s : String) : FieldRef :=
  match Text.split s '|' with
  | [] => ⟨s, []⟩
  | name :: modifiers => ⟨name, modifiers⟩

def FieldRef.ofKey (key : Value) : Try FieldRef := key.asCut.map FieldRef.ofText

def fieldClause (fields : FieldMap) (field : FieldRef) (value : Value) : Option String :=
  let target := fields.target field.name
  match value with
  | .list values =>
    let clauses := values.filterMap (clause target field.modifiers)
    if clauses.isEmpty then none else some ("(" ++ " OR ".intercalate clauses ++ ")")
  | value => clause target field.modifiers value

/-- The values that a field may have: one of a list, or just this one. -/
def valuesOf : Value → List Value
  | .list values => values
  | value => [value]

/-- Whether a value can be written into a clause. Only a number can be too long for that. -/
def isWritten : Value → Bool
  | .int n => !Decimal.isLongWhole n
  | _ => true

def entryRef (e : Value × Value) : Try (FieldRef × Value) := do
  let ref ← FieldRef.ofKey e.1
  if (valuesOf e.2).all isWritten then return (ref, e.2) else throw (.refused Decimal.longWhole)

theorem entryRef_eq_ok {e : Value × Value} {r : FieldRef × Value} : entryRef e = .ok r ↔
    FieldRef.ofKey e.1 = .ok r.1 ∧ r.2 = e.2 ∧ (valuesOf e.2).all isWritten := by
  rcases r with ⟨ref, v⟩
  unfold entryRef
  cases FieldRef.ofKey e.1 with
  | error f => simp [bind, Except.bind]
  | ok ref' =>
    cases (valuesOf e.2).all isWritten <;>
      simp [bind, Except.bind, pure, Except.pure, throw, throwThe, MonadExceptOf.throw, eq_comm]

def selectionRefs (block : Entries) : Try (List (FieldRef × Value)) := block.mapM entryRef

theorem selectionRefs_texts (block : Fields) : selectionRefs (block.map fun e => (.text e.1, e.2)) =
      if block.all fun e => (valuesOf e.2).all isWritten then
        .ok (block.map fun e => (FieldRef.ofText e.1, e.2))
      else .error (.refused Decimal.longWhole) := by
  induction block with
  | nil => rfl
  | cons e block ih =>
    have hentry : entryRef (.text e.1, e.2) = if (valuesOf e.2).all isWritten then
        .ok (FieldRef.ofText e.1, e.2) else .error (.refused Decimal.longWhole) := rfl
    rw [selectionRefs] at ih ⊢
    rw [List.map_cons, List.mapM_cons, ih, hentry, List.all_cons]
    cases (valuesOf e.2).all isWritten <;> cases block.all _ <;> rfl

def selectionClause (fields : FieldMap) (refs : List (FieldRef × Value)) : String :=
  " AND ".intercalate (refs.filterMap fun r => fieldClause fields r.1 r.2)

def selectionFields (refs : List (FieldRef × Value)) : Texts := (refs.map (·.1.name)).eraseDups

open Text (Rule rewrite wordRule foldRule isWord dropStart?)

/-! ## Conditions

The condition of a detection rule combines its selections by name. As a clause, every name is
replaced by the clause of its selection, longer names first, and the operators are written in
capitals. -/

abbrev NamedClause := String × String

def byLength (clauses : List NamedClause) : List NamedClause :=
  clauses.mergeSort fun a b => b.1.length ≤ a.1.length

def clauseTemplate (clause : String) : Chars := '(' :: clause.toList ++ [')']

def substitute (condition : Chars) (c : NamedClause) :
    Except Text.Template.Error Chars := do
  let pieces ← Text.Template.parse (clauseTemplate c.2)
  return rewrite (wordRule c.1.toList) (Text.Template.expand pieces) condition

def capitalise (cs : Chars) : Chars :=
  let step (word capitals : String) (cs : Chars) : Chars :=
    rewrite (foldRule word.toList) (fun _ => capitals.toList) cs
  step "not" "NOT" (step "or" "OR" (step "and" "AND" cs))

def quantifierRule (start : String) : Rule := fun _ cs =>
  match dropStart? start.toList cs with
  | none => none
  | some rest =>
    let word := rest.takeWhile isWord
    if !word.isEmpty && (rest.drop word.length).head? == some '*' then
      some (start.length + word.length + 1)
    else none

def dropQuantifier (start : String) (cs : Chars) : Chars :=
  rewrite (quantifierRule start)
    (fun found => '(' :: (found.drop start.length).dropLast ++ [')']) cs

def finish (cs : Chars) : Chars :=
  dropQuantifier "all of " (dropQuantifier "1 of " (capitalise cs))

def lookupClause (clauses : List NamedClause) (name : String) : Option String :=
  (clauses.reverse.find? fun c => c.1 == name).map (·.2)

def resolve (condition : String) (clauses : List NamedClause) : Except Text.Template.Error String :=
  if condition.isEmpty || clauses.isEmpty then .ok ""
  else match lookupClause clauses condition with
    | some clause => .ok clause
    | none => do
      let replaced ← (byLength clauses).foldlM substitute condition.toList
      return String.ofList (finish replaced)

def nameLength : Value → Try Nat
  | .text s => .ok s.length
  | .bytes data => .ok data.length
  | .tuple items => .ok items.length
  | v => .error (.mismatch (.noLength v.kind))

def checkNames (condition : Value) (clauses : List (Value × String)) : Try Unit :=
  clauses.forM fun c =>
    match c.1 with
    | .text _ => do
      let _ ← (Text.Template.parse (clauseTemplate c.2)).mapError Fault.template
      match condition with
      | .text _ => return ()
      | v => throw (.mismatch (.notSearchable v.kind))
    | v => throw (.mismatch (.notAddable v.kind))

def namedTexts? (clauses : List (Value × String)) : Option (List NamedClause) :=
  clauses.mapM fun c => c.1.text?.map (·, c.2)

def resolveAny (condition : Value) (clauses : List (Value × String)) : Try String :=
  if !condition.truthy || clauses.isEmpty then .ok ""
  else if !condition.hashable then .error condition.keyFault
  else match (clauses.find? fun c => condition.same c.1).map (·.2) with
    | some clause => .ok clause
    | none => do
      let sized ← clauses.mapM fun c => (nameLength c.1).map (·, c)
      checkNames condition ((sized.mergeSort fun a b => b.1 ≤ a.1).map (·.2))
      return ""

def resolveValue (condition : Value) (clauses : List (Value × String)) : Try String :=
  match condition, namedTexts? clauses with
  | .text s, some named => (resolve s named).mapError Fault.template
  | _, _ => resolveAny condition clauses

end Huntbook.Search
