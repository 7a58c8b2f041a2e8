import Huntbook.Conversion.Requirement

/-!
# From rules to searches

A detection rule becomes a search of Splunk: the feed of its log source, then its condition over the
clauses of its selections, then a limit on time.
-/

namespace Huntbook.Conversion

open Search

/-- What a conversion can be told apart from the rule. -/
structure Options where
  custom : FieldMap
  useModel : Bool
  (index sourcetype timeRange : Value)

def Options.default : Options := ⟨[], false, .null, .null, .null⟩

inductive Status
  | ok | missing
  deriving DecidableEq

def Status.name : Status → String
  | .ok => "ok"
  | .missing => "missing"

/-- What has become of a field. -/
structure FieldResult where
  field : String
  target : Option String
  status : Status

structure HealthCheck where
  (name description query : String)

/-- What a rule becomes. -/
structure Result where
  search : String
  fields : List FieldResult
  requirements : Requirements
  gaps : Texts
  healthChecks : List HealthCheck

/-- A block of the detection, with the fields it names. -/
structure Block where
  clause : Option String
  fields : Texts

def Block.ofSelection (fields : FieldMap) (entries : Entries) :
    Try Block := do
  let refs ← selectionRefs entries
  let clause := selectionClause fields refs
  return ⟨if clause.isEmpty then none else some clause, selectionFields refs⟩

def Block.ofItem (fields : FieldMap) : Value → Try Block
  | .map entries => Block.ofSelection fields entries
  | .text s => .ok ⟨some ("\"" ++ escapeValue s ++ "\""), []⟩
  | _ => .ok ⟨none, []⟩

def Block.ofValue (fields : FieldMap) : Value → Try Block
  | .map entries => Block.ofSelection fields entries
  | .list items => do
    let blocks ← items.mapM (Block.ofItem fields)
    let clauses := blocks.filterMap (·.clause)
    let clause := " OR ".intercalate (clauses.map fun c => "(" ++ c ++ ")")
    return ⟨if clauses.isEmpty then none else some clause, blocks.flatMap (·.fields)⟩
  | _ => .ok ⟨none, []⟩

def blocksOf (fields : FieldMap) (entries : Entries) : Try (List (Value × Block)) :=
  (entries.filter fun e => !e.1.same (.text "condition")).mapM fun e =>
    (Block.ofValue fields e.2).map (e.1, ·)

def clausesOf (blocks : List (Value × Block)) : List (Value × String) :=
  blocks.filterMap fun b => b.2.clause.map (b.1, ·)

def fieldsOf (blocks : List (Value × Block)) : Texts :=
  (blocks.flatMap (·.2.fields)).eraseDups.mergeSort (fun a b => a ≤ b)

/-- The fields of all blocks, and those without a target. -/
structure Survey where
  results : List FieldResult
  gaps : Texts

def Survey.empty : Survey := ⟨[], []⟩

def Survey.add (fields : FieldMap) (survey : Survey) (name : String) : Try Survey :=
  let missing : Survey := ⟨survey.results ++ [⟨name, none, .missing⟩], survey.gaps ++ [name]⟩
  match fields.get? name with
  | none => .ok missing
  | some target =>
    if target.truthy && !target.same (.text (unmapped name)) then
      match Form.textOf target with
      | .ok t => .ok { survey with results := survey.results ++ [⟨name, some t, .ok⟩] }
      | .error p => .error (.ofForm [⟨[.name "target_field"], p⟩])
    else .ok missing

def surveyOf (fields : FieldMap) (names : Texts) : Try Survey :=
  names.foldlM (Survey.add fields) .empty

/-- The events that are searched. -/
structure Scope where
  (index sourcetype : Value)
  codes : String

def scopeOf (options : Options) (feed : Feed) : Scope :=
  { index := if options.index.truthy then options.index else .text feed.index
    sourcetype :=
      if options.sourcetype.truthy then options.sourcetype else .text feed.sourcetype
    codes := feed.codesText }

def Scope.base (s : Scope) : String :=
  s!"index={s.index.plain}"
    ++ (if s.sourcetype.same (.text "*") then "" else s!" sourcetype=\"{s.sourcetype.plain}\"")

def Scope.text (s : Scope) : String :=
  s.base ++ (if s.codes.isEmpty then "" else s!" EventCode={s.codes}")

def searchText (scope : Scope) (condition : String) (timeRange : Value) : String :=
  let search := scope.text ++ (if condition.isEmpty then "" else "\n| where " ++ condition)
  if timeRange.truthy then
    search ++ s!"\n| where _time >= relative_time(now(), \"{timeRange.plain}\")"
  else search

def fieldCheck (scope : Scope) (field target : String) : HealthCheck :=
  { name := s!"Field \"{target}\" Exists"
    description := s!"Verify that field {target} (mapped from {field}) exists"
    query := s!"{scope.base} earliest=-1h | where isnotnull({target}) | head 1 | stats count" }

def sourceCheck (scope : Scope) : HealthCheck :=
  { name := "Log Source Exists"
    description := "Verify that the log source is receiving data"
    query := s!"{scope.base} earliest=-1h | head 1 | stats count" }

def codeCheck (scope : Scope) : HealthCheck :=
  { name := s!"EventCode {scope.codes} Present"
    description := "Verify that the required EventCode is being logged"
    query := s!"{scope.base} EventCode={scope.codes} earliest=-24h | stats count" }

def scopeChecks (scope : Scope) : List HealthCheck :=
  sourceCheck scope :: if scope.codes.isEmpty then [] else [codeCheck scope]

def healthChecks (scope : Scope) (fields : List FieldResult) : List HealthCheck :=
  scopeChecks scope ++ fields.filterMap fun f =>
    match f.status, f.target with
    | .ok, some target => if target.isEmpty then none else some (fieldCheck scope f.field target)
    | _, _ => none

def checkLe (a b : HealthCheck) : Bool :=
  a.name < b.name || (a.name == b.name && a.description ≤ b.description)

def HealthCheck.isOfField (c : HealthCheck) : Bool := Text.startsWith c.name "Field \""

def Result.checks (r : Result) : List HealthCheck :=
  r.healthChecks.filter (!·.isOfField) ++ (r.healthChecks.filter (·.isOfField)).mergeSort checkLe

def convert (rule : Value) (options : Options) : Try Result := do
  let fields := fieldMap options.custom options.useModel
  let feed ← (← LogSource.ofRule rule).feed
  let scope := scopeOf options feed
  let detection ← rule.getOr "detection" (.map [])
  let condition ← detection.getOr "condition" (.text "")
  let blocks ← blocksOf fields (← detection.entries)
  let clause ← resolveValue condition (clausesOf blocks)
  let survey ← surveyOf fields (fieldsOf blocks)
  let needs ← requirements rule (.ok (feed.codes.map fun (n : Nat) => .int n))
  return ⟨searchText scope clause options.timeRange, survey.results, needs, survey.gaps,
    healthChecks scope survey.results⟩

def FieldResult.toValue (f : FieldResult) : Value :=
  .record [("sigma_field", .text f.field), ("target_field", .ofText? f.target),
    ("status", .text f.status.name)]

def gapValue (field : String) : Value :=
  .record [("field", .text field), ("location", .text "detection"),
    ("impact", .text s!"Query will use placeholder {unmapped field}"),
    ("suggestions", .ofTexts ["Map to existing field in your environment",
      "Check if field exists with different name",
      "Verify log source is correctly configured"])]

def HealthCheck.toValue (c : HealthCheck) : Value :=
  .record [("name", .text c.name), ("description", .text c.description),
    ("query", .text c.query)]

end Huntbook.Conversion
