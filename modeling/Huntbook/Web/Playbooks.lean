import Huntbook.Attack.Technique
import Huntbook.Form.Playbook
import Huntbook.Playbook.Export
import Huntbook.Web.Server

/-!
# Endpoints for playbooks

Playbooks listed, searched, shown, exported and deleted, and the techniques that they cover.
-/

namespace Huntbook.Web.Playbooks

open Serving

def welcome : Value :=
  .record
    [("name", .text "Threat Hunting Playbook API"), ("version", .text "2.0.0"),
     ("status", .text "operational"),
     ("endpoints", .record
      [("health", .text "/health"), ("docs", .text "/docs"), ("playbooks", .text "/api/playbooks"),
       ("search", .text "/api/search"), ("ai", .text "/api/ai")])]

def health : Serving Value := do
  return .record [("status", .text "healthy"), ("version", .text "2.0.0"),
    ("ai_available", .bool (← get).assistant.isAvailable)]

def all : Serving (List Playbook.Summary) :=
  ask fun s => Playbook.summaries s.tree s.shelf.folder

def listed (found : List Playbook.Summary) : Value := .list (found.map (·.toValue))

def page (i : Input) : Serving Value := always do
  let found ← all
  if (i.arg "limit").truthy then
    return listed ((found.drop (i.number "offset")).take (i.number "limit"))
  else return listed found

def absent (id : Value) : String := s!"Playbook {id.plain} not found"

def single (i : Input) : Serving Value :=
  attempt (some (absent (i.arg "playbook_id"))) false (playbook (i.arg "playbook_id"))

def search (i : Input) : Serving Value := always do
  let criteria : Playbook.Criteria :=
    { text := i.arg "query", technique := i.arg "technique", tactic := i.arg "tactic"
      tag := i.arg "tag", severity := i.arg "severity" }
  return listed (← ask fun s => Playbook.search s.tree s.shelf.folder criteria)

def exported (i : Input) : Serving Value :=
  let id := i.arg "playbook_id"
  attempt (some (absent id)) true do
    let p ← playbook id
    let query ← orFault (Playbook.exported p (i.arg "siem"))
    return .record [("playbook_id", id), ("siem", i.arg "siem"), ("query", .text query)]

def technique (i : Input) : Serving Value := always do
  let id := i.arg "technique_id"
  let name ← orFault (Attack.nameOf id)
  return .record [("technique_id", id), ("name", .text name),
    ("tactic", .ofText? (Attack.tacticOf id)), ("url", .text (Attack.url id.plain))]

def advice (c : Playbook.Coverage) : Serving Value := do
  let assistant := (← get).assistant
  if assistant.isAvailable then
    tryCatch (do return .text (← talk (assistant.answer (.text c.question) .null)))
      fun _ => return .null
  else return .null

def gaps : Serving Value := always do
  let c ← orFault (Playbook.coverage (← all))
  return .record
    [("total_techniques", .int Playbook.techniqueCount),
     ("covered_techniques", .int c.techniques.length),
     ("coverage_percentage", .float c.percent),
     ("tactic_coverage", c.tacticsValue),
     ("ai_suggestions", ← advice c),
     ("gaps", .record
      [("uncovered_count", .int c.uncovered), ("tactics_needing_attention", .list c.thin)])]

def stats : Serving Value := always do
  let found ← all
  let (tactics, severities) ← orFault (Playbook.tallies found)
  return .record
    [("total_playbooks", .int found.length), ("by_tactic", .map tactics),
     ("by_severity", .map severities), ("ai_available", .bool (← get).assistant.isAvailable),
     ("supported_siems", .ofTexts Playbook.platforms)]

def prepared : Serving Folder.Path := do
  let folder := (← get).shelf.folder
  files (Playbook.prepare folder)
  return folder

def noClock {α : Type} : Serving α := throw (.fault (.noName "datetime"))

/-- A new playbook, which is never made: one that is there is not made again, and for another
    one the time of its making is not at hand. -/
def create (i : Input) : Serving Value := attempt none true do
  let existing ← tryCatch (some <$> playbook (i.field "id")) fun
    | .fault f => if f.isMissing then return none else throw (.fault f)
    | h => throw h
  match existing with
  | some _ => deny 409 ("Playbook " ++ (i.field "id").plain ++ " already exists")
  | none =>
    let _ ← prepared
    noClock

def update (i : Input) : Serving Value :=
  attempt (some (absent (i.arg "playbook_id"))) true do
    let _ ← playbook (i.arg "playbook_id")
    let _ ← prepared
    noClock

def delete (i : Input) : Serving Value :=
  let id := i.arg "playbook_id"
  attempt (some (absent id)) false do
    let _ ← playbook id
    let folder ← prepared
    files (Playbook.delete folder id)
    modify fun s => { s with shelf := { s.shelf with loaded := [] } }
    return .record [("message", .text s!"Playbook {id.plain} deleted successfully"),
      ("playbook_id", id)]

end Huntbook.Web.Playbooks

namespace Huntbook.Web.Assistance

open Serving

/-! ## Endpoints of the assistant -/

def assistant (detail : String) : Serving Chat.Assistant := do
  let a := (← get).assistant
  if a.isAvailable then return a else deny 503 detail

def unavailable : String := "AI service not available"

def explain (i : Input) : Serving Value := do
  let a ← assistant (unavailable ++ ". Configure GROQ_API_KEY or OPENAI_API_KEY")
  let id := i.field "playbook_id"
  attempt (some (Playbooks.absent id)) false do
    let p ← playbook id
    return .record [("playbook_id", id), ("explanation", .text (← talk (a.explain p)))]

def answer (i : Input) : Serving Value := do
  let a ← assistant unavailable
  always do
    let question := i.field "question"
    return .record [("question", question), ("answer", .text (← talk (a.answer question .null)))]

def advise (i : Input) : Serving Value := do
  let a ← assistant unavailable
  let id := i.field "playbook_id"
  always do
    let p ← if id.truthy then playbook id else pure .null
    let finding := i.field "finding"
    return .record [("finding", finding), ("playbook_id", id),
      ("suggestions", .text (← talk (a.advise finding p)))]

def adapt (i : Input) : Serving Value := do
  let a ← assistant unavailable
  let id := i.field "playbook_id"
  attempt (some (Playbooks.absent id)) false do
    let p ← playbook id
    let environment := i.field "target_env"
    let platform := i.field "target_siem"
    return .record [("playbook_id", id), ("target_env", environment), ("target_siem", platform),
      ("variant", .text (← talk (a.adapt p environment platform)))]

def choose (provider keyName key : String) : Serving Unit := do
  if key.toList.contains '\x00' then throw (.fault (.refused "embedded null byte"))
  modify fun s => { s with env := (s.env.set keyName key).set "AI_PROVIDER" provider }

def configure (i : Input) : Serving Value := do
  let provider := i.field "provider"
  match provider, i.field "groq_api_key", i.field "openai_api_key" with
  | .text "groq", .text key, _ => if !key.isEmpty then choose "groq" "GROQ_API_KEY" key
  | .text "openai", _, .text key => if !key.isEmpty then choose "openai" "OPENAI_API_KEY" key
  | _, _, _ => pure ()
  let a ← talk (Chat.Assistant.ofEnvironment (← get).env)
  modify fun s => { s with assistant := a }
  return .record [("message", .text "AI configuration updated"), ("provider", provider),
    ("status", .text (if a.isAvailable then "available" else "unavailable"))]

def tryKey (i : Input) : Serving Value := do
  let provider := i.field "provider"
  let key := (i.field "api_key").plain
  match provider with
  | .text "groq" => choose "groq" "GROQ_API_KEY" key
  | _ => choose "openai" "OPENAI_API_KEY" key
  let a ← talk (Chat.Assistant.ofEnvironment (← get).env)
  if !a.isAvailable then deny 400 "AI service not available with provided credentials"
  tryCatch (do
    let _ ← talk (a.answer (.text "Say 'test successful' in exactly 2 words") .null)
    return .record [("status", .text "success"), ("provider", provider),
      ("message", .text "Connection successful")])
    fun h => deny 400 ("AI test failed: " ++ h.message)

def status : Serving Value := do
  let s ← get
  let filled (name : String) : Bool := (s.env.get? name).any (!·.isEmpty)
  return .record
    [("available", .bool s.assistant.isAvailable),
     ("provider", .text (s.env.getD "AI_PROVIDER" "none")),
     ("groq_configured", .bool (filled "GROQ_API_KEY")),
     ("openai_configured", .bool (filled "OPENAI_API_KEY"))]

end Huntbook.Web.Assistance
