import Huntbook.Conversion.Backward
import Huntbook.Conversion.Forward
import Huntbook.Form.Conversion
import Huntbook.Web.Server

/-!
# Endpoints for rules and searches

The library of rules, and the conversions: from rules to searches, from searches to rules, and from
descriptions to both.
-/

namespace Huntbook.Web.Conversions

open Serving

def rules (i : Input) : Serving Value := do
  let filter : Rule.Filter :=
    { search := i.arg "search", product := i.arg "product", service := i.arg "service"
      category := i.arg "category", tags := .null }
  let (found, total) ← ask fun s => s.library.list filter (i.number "limit") (i.number "offset")
  return .record [("rules", .list (found.map (·.toValue))), ("total", .int total),
    ("limit", i.arg "limit"), ("offset", i.arg "offset")]

def rule (i : Input) : Serving Value := do
  let found ← ask fun s => s.library.content (i.arg "path").plain
  if found.truthy then return found else deny 404 "Rule not found"

def validate (i : Input) : Serving Value :=
  match Rule.acceptAny (i.field "yaml_content") with
  | .error r => return .record [("valid", .bool false), ("error", .text r.message)]
  | .ok rule => do
    let title ← orFault (rule.get "title")
    let fields ← orFault (Rule.fields rule)
    let source ← orFault (Rule.logSourceRecord rule)
    return .record [("valid", .bool true), ("title", title), ("fields", .ofTexts fields),
      ("logsource", source)]

/-- What is told of a conversion beside its result. -/
structure Notes where
  (requirements fields gaps checks : Value)

def Notes.ofResult (r : Conversion.Result) : Notes :=
  { requirements := r.requirements.toValue
    fields := .list (r.fields.map (·.toValue))
    gaps := .list (r.gaps.map Conversion.gapValue)
    checks := .list (r.checks.map (·.toValue)) }

def Notes.empty : Notes :=
  { requirements := .record
      [("log_source", .map []), ("required_logs", .list []), ("event_ids", .list []),
       ("channels", .list []), ("configuration", .list []), ("has_alternatives", .bool false)]
    fields := .list []
    gaps := .list []
    checks := .list [] }

def told (id name search rule : Value) (notes : Notes) (more : Fields) : Value :=
  .record <|
    [("id", id), ("name", name), ("spl", search), ("sigma_yaml", rule),
     ("prerequisites", notes.requirements), ("mappings", notes.fields), ("gaps", notes.gaps),
     ("health_checks", notes.checks)] ++ more

def noted (now : Moment) (fields : Fields) : Serving Value := do
  let r ← orFault (Record.ofFields .conversion now fields)
  return (← stored (Store.saveConversion now r)).get "id"

def options (s : Store) (i : Input) : Try Conversion.Options := do
  let own : Conversion.Options :=
    { custom := [], useModel := false, index := i.field "index_override"
      sourcetype := i.field "sourcetype_override", timeRange := i.field "time_range" }
  let id := i.field "profile_id"
  if !id.truthy then return own
  match ← s.found? .profiles id with
  | none => return own
  | some profile =>
    let index := profile.get "index_name"
    return { own with
      custom := (← s.fieldTable (profile.get "id")).filterMap fun e => e.1.text?.map (·, e.2)
      useModel := if (i.field "cim_override").isNull then (profile.get "cim_enabled").truthy
        else (i.field "cim_override").truthy
      index := if own.index.truthy then own.index
        else if index.same (.text "*") then .null else index }

def toSearch (i : Input) : Serving Value := do
  let text := i.field "sigma_yaml"
  match Rule.acceptAny text with
  | .error r => deny 400 r.message
  | .ok rule =>
    let chosen ← ask fun s => options s.store i
    let result ← orFault (Conversion.convert rule chosen)
    let notes := Notes.ofResult result
    let name ← orFault (rule.getOr "title" (.text "Untitled Rule"))
    let written (v : Value) : Serving Value := do return .text (← orFault (Json.write v))
    let id ← noted i.now
      [("name", name), ("conversion_type", .text "sigma_to_spl"),
       ("profile_id", i.field "profile_id"), ("input_content", text),
       ("output_spl", .text result.search), ("prerequisites", ← written notes.requirements),
       ("gap_analysis", ← written notes.gaps), ("health_checks", ← written notes.checks),
       ("llm_used", .bool false)]
    return told id name (.text result.search) text notes [("llm_used", .bool false)]

def bullets (items : Value) : Try String := do
  return "\n".intercalate ((← items.iterate).map fun item => "- " ++ item.plain)

def improved (search rule note : Value) : Serving (Value × Value) := do
  let settings := (← get).settings
  if !settings.hasModel then return (rule, note)
  let (better, changes) ← talk (Chat.Advisor.improve settings search rule)
  if !better.truthy then return (rule, note)
  if !changes.truthy then return (better, note)
  let lines ← orFault (bullets changes)
  let before := if note.truthy then note.plain else ""
  return (better, .text (before ++ "\n\nLLM Improvements:\n" ++ lines))

def toRule (i : Input) : Serving Value := do
  let search := i.field "spl_query"
  if (Text.trim search.plain).isEmpty then deny 400 "SPL query cannot be empty"
  let title := i.field "title"
  let draft ← orFault (Conversion.reverse search.plain
    { title, level := i.field "level", status := i.field "status", author := i.field "author"
      description := i.field "description" })
  let (rule, note) ← improved search (.text draft.document) (.ofText? draft.note)
  let notes ← match Rule.acceptAny rule with
    | .ok rule => do
      pure (Notes.ofResult (← orFault (Conversion.convert rule .default)))
    | .error _ => pure Notes.empty
  let advised := Value.bool (← get).settings.hasModel
  let id ← noted i.now
    [("name", title), ("conversion_type", .text "spl_to_sigma"), ("input_content", search),
     ("output_sigma", rule), ("output_spl", search), ("correlation_notes", note),
     ("llm_used", advised)]
  return told id title search rule notes [("correlation_notes", note), ("llm_used", advised)]

def firstItem : Value → Try String
  | .list (v :: _) => .ok v.plain
  | .text s => .ok (String.ofList (s.toList.take 1))
  | .map _ => .error (.noEntry (.int 0))
  | v => .error (.mismatch (.noSubscript v.kind))

def fromDescription (i : Input) : Serving Value := do
  let settings := (← get).settings
  if !settings.hasModel then
    deny 503 "This feature requires LLM. Configure API keys in settings."
  let description := i.field "description"
  let made ← talk (Chat.Advisor.generate settings
    { description, logSource := i.field "log_source", level := i.field "level"
      falsePositives := i.field "include_false_positives"
      techniques := i.field "include_attack_techniques" })
  if !made.rule.truthy then
    let reason ← if made.assumptions.truthy then orFault (firstItem made.assumptions) else pure ""
    deny 500 ("Failed to generate detection. " ++ reason)
  match Rule.acceptAny made.rule with
  | .error r => deny 500 ("Generated invalid Sigma: " ++ r.message)
  | .ok rule =>
    let result ← orFault (Conversion.convert rule .default)
    let search := if made.search.truthy then made.search else .text result.search
    let note ← if made.assumptions.truthy then do
        pure (Value.text ("Assumptions Made:\n" ++ (← orFault (bullets made.assumptions))))
      else pure .null
    let name ← orFault (rule.getOr "title" (.text "Generated Detection"))
    let id ← noted i.now
      [("name", name), ("conversion_type", .text "text_to_sigma"),
       ("input_content", description), ("output_sigma", made.rule), ("output_spl", search),
       ("correlation_notes", note), ("llm_used", .bool true)]
    return told id name search made.rule (.ofResult result)
      [("correlation_notes", note), ("llm_used", .bool true)]

def advisor : Serving Value := do
  let s := (← get).settings
  return .record [("available", .bool s.hasModel), ("provider", .text s.provider),
    ("model", if s.hasModel then .text s.model else .null)]

end Huntbook.Web.Conversions
