import Huntbook.Value.Access

/-!
# Settings

How the conversion of rules is set up, and which web pages may ask questions.
-/

namespace Huntbook

/-! ## The environment -/

structure Environment where
  vars : TextPairs

namespace Environment

def get? (env : Environment) (name : String) : Option String := env.vars.lookup name

def getD (env : Environment) (name default : String) : String := (env.get? name).getD default

def set (env : Environment) (name value : String) : Environment :=
  ⟨(name, value) :: env.vars.filter (·.1 != name)⟩

end Environment

/-- What the environment says at the start. -/
structure Settings where
  (databaseUrl rulesPath provider : String)
  (apiKey apiBase : Option String)
  model : String
  timeout : Int
  azureVersion : String
  debug : Bool

namespace Settings

def firstFilled : List (Option String) → Option String
  | [] => none
  | [s] => s
  | s :: rest => if s.any (!·.isEmpty) then s else firstFilled rest

def ofEnvironment (env : Environment) : Try Settings := do
  let timeout ← Fault.readBase 10 (env.getD "SIGMA_LLM_TIMEOUT" "30").toList
  return {
    databaseUrl := env.getD "SIGMA_DATABASE_URL" "sqlite:///./data/sigma_translator.db"
    rulesPath := env.getD "SIGMA_REPO_PATH" "./sigma-rules"
    provider := env.getD "SIGMA_LLM_PROVIDER" "offline"
    apiKey := firstFilled
      [env.get? "SIGMA_LLM_API_KEY", env.get? "OPENAI_API_KEY", env.get? "GROQ_API_KEY"]
    apiBase := env.get? "SIGMA_LLM_API_BASE"
    model := env.getD "SIGMA_LLM_MODEL" "gpt-4o-mini"
    timeout
    azureVersion := env.getD "AZURE_API_VERSION" "2024-02-15-preview"
    debug := Text.lower (env.getD "DEBUG" "false") == "true" }

def hasModel (s : Settings) : Bool := s.provider != "offline" && s.apiKey.isSome

def toValue (s : Settings) : Value :=
  .record [("DATABASE_URL", .text s.databaseUrl), ("SIGMA_REPO_PATH", .text s.rulesPath),
    ("LLM_PROVIDER", .text s.provider), ("LLM_API_KEY", .ofText? s.apiKey),
    ("LLM_API_BASE", .ofText? s.apiBase), ("LLM_MODEL", .text s.model),
    ("LLM_TIMEOUT", .int s.timeout), ("AZURE_API_VERSION", .text s.azureVersion),
    ("DEBUG", .bool s.debug), ("is_llm_available", .bool s.hasModel)]

end Settings

def developmentOrigins : Texts :=
  ["http://localhost", "http://localhost:3000", "http://localhost:8000", "http://127.0.0.1",
   "http://127.0.0.1:3000", "http://127.0.0.1:8000"]

def allowedOrigins (production : Bool) (env : Environment) : Texts :=
  if production then
    ((Text.split (env.getD "ALLOWED_ORIGINS" "") ',').map Text.trim).filter (!·.isEmpty)
  else developmentOrigins

end Huntbook
