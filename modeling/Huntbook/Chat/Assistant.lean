import Huntbook.Chat.Prompt
import Huntbook.Settings

/-!
# The assistant

A language model that explains playbooks and answers the questions of a hunter.
-/

namespace Huntbook.Chat

/-! ## Sessions with a language model

The other side of a conversation. It answers from a list of replies that is used up one by one,
and every connection and every question is noted, so that what was said can be told afterwards. -/

/-- What comes back from a model. -/
inductive Reply
  | content (s : Option String)
  | failure (wording : String)

/-- What a model, or the way to it, gets to see. -/
inductive Event
  | connected (service : String) (arguments : Fields)
  | asked (arguments : Fields)

/-- The replies that are still to come, and what has been asked so far. -/
structure Exchange where
  replies : List Reply
  (missing advising : Bool)
  log : List Event

/-- Whether the other side refuses connections does not change in a session. -/
structure Session extends Exchange where
  refusing : Bool

abbrev Talk := ReaderT Bool (ExceptT Fault (StateM Exchange))

def Session.hold {α : Type} (s : Session) (t : Talk α) : Try α × Session :=
  let (r, exchange) := (t.run s.refusing).run.run s.toExchange
  (r, { s with toExchange := exchange })

def note (e : Event) : Talk Unit := modify fun s => { s with log := s.log ++ [e] }

def connect (service : String) (arguments : Fields) : Talk Unit := do
  if ← read then throw (.service "client construction failed")
  note (.connected service arguments)

def ask (arguments : Fields) : Talk (Option String) := do
  note (.asked arguments)
  match (← get).replies with
  | [] => throw (.remote "no reply left")
  | reply :: rest =>
    modify fun s => { s with replies := rest }
    match reply with
    | .content s => return s
    | .failure wording => throw (.remote wording)

def question (model : String) (instruction : String) (prompt : Value) (temperature : Float)
    (length : Int) : Fields :=
  let message (role : String) (content : Value) : Value :=
    .record [("role", .text role), ("content", content)]
  [("model", .text model),
   ("messages", .list [message "system" (.text instruction), message "user" prompt]),
   ("temperature", .float temperature), ("max_tokens", .int length)]

def playbookText (p : Value) : Try String := do
  let label (label name : String) : Try Value := do
    return .text (label ++ (← p.get name).plain)
  let ids ← label "ID: " "id"
  let name ← label "Name: " "name"
  let description ← label "Description: " "description"
  let technique ← (← p.getOr "mitre" (.map [])).get "technique"
  let tactic ← (← p.getOr "mitre" (.map [])).get "tactic"
  let severity ← label "Severity: " "severity"
  let hypothesis ← label "\nHunt Hypothesis:\n" "hunt_hypothesis"
  let queries ← p.getOr "queries_content" (.map [])
  let queryLines ← if !queries.truthy then pure [] else do
    let found ← (← queries.entries).mapM fun (platform, query) => do
      return [.text ("\n" ++ (← platform.uppered).plain ++ ":"), query]
    pure (.text "\nQueries:" :: found.flatten)
  let bullets (heading name : String) : Try (List Value) := do
    let items ← p.get name
    if !items.truthy then return []
    return .text heading :: (← items.iterate).map fun item => .text ("- " ++ item.plain)
  let steps ← bullets "\nInvestigation Steps:" "investigation_steps"
  let doubts ← bullets "\nFalse Positives:" "false_positives"
  Value.joinTexts "\n"
    ([ids, name, description,
      .text ("MITRE Technique: " ++ technique.plain ++ " - " ++ tactic.plain), severity,
      hypothesis] ++ queryLines ++ steps ++ doubts)

/-- The service that answers questions. -/
structure Assistant where
  provider : String
  model : Option String

namespace Assistant

def ofEnvironment (env : Environment) : Talk Assistant := do
  let provider := Text.lower (env.getD "AI_PROVIDER" "groq")
  let filled (name : String) : Option String := (env.get? name).filter (!·.isEmpty)
  match (if provider == "groq" then filled "GROQ_API_KEY" else none) with
  | some key =>
    connect "OpenAI" [("api_key", .text key), ("base_url", .text "https://api.groq.com/openai/v1")]
    return ⟨provider, some (env.getD "GROQ_MODEL" "llama-3.1-70b-versatile")⟩
  | none =>
    match filled "OPENAI_API_KEY" with
    | some key =>
      connect "OpenAI" [("api_key", .text key)]
      return ⟨"openai", some (env.getD "OPENAI_MODEL" "gpt-4-turbo-preview")⟩
    | none => return ⟨provider, none⟩

def isAvailable (a : Assistant) : Bool := a.model.isSome

def info (a : Assistant) : String :=
  match a.model with
  | none => "AI Assistant not configured. Set GROQ_API_KEY or OPENAI_API_KEY in .env file."
  | some model => s!"Using {Text.upper a.provider} with model {model}"

def chat (model : String) (prompt : Value) : Talk String := do
  try
    match ← ask (question model Prompt.assistantRole prompt 0.7 2000) with
    | some s => return Text.trim s
    | none => throw (.noOperation .null "strip")
  catch e => throw (.service ("AI request failed: " ++ e.message))

def reply (a : Assistant) (prompt : Try Value) : Talk String :=
  match a.model with
  | none => throw (.service "AI Assistant not configured")
  | some model => do chat model (← ofExcept prompt)

def explain (a : Assistant) (playbook : Value) : Talk String :=
  a.reply ((playbookText playbook).map fun context => .text (Prompt.explanation context))

def answer (a : Assistant) (question context : Value) : Talk String :=
  a.reply (.ok (Prompt.inquiry question context))

def advise (a : Assistant) (finding playbook : Value) : Talk String :=
  a.reply do
    let context ← if playbook.truthy then do
        pure ("\nPlaybook context:\n" ++ (← playbookText playbook))
      else pure ""
    return .text (Prompt.nextSteps finding.plain context)

def adapt (a : Assistant) (playbook environment platform : Value) : Talk String :=
  a.reply ((playbookText playbook).map fun context =>
    .text (Prompt.variant context environment.plain platform.plain))

end Assistant

end Huntbook.Chat
