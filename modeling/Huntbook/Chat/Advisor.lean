import Huntbook.Chat.Assistant

/-!
# The advisor

Advice on rules from a language model. Nothing here depends on the model being there: where it
is not set up, cannot be reached or answers badly, there is an answer without it.
-/

namespace Huntbook.Chat

def afterMark? (mark : Chars) : Chars → Option Chars
  | [] => if mark.isEmpty then some [] else none
  | c :: rest =>
    if mark.isPrefixOf (c :: rest) then some ((c :: rest).drop mark.length)
    else afterMark? mark rest

def beforeMark (mark : Chars) : Chars → Chars
  | [] => []
  | c :: rest => if mark.isPrefixOf (c :: rest) then [] else c :: beforeMark mark rest

def fence : Chars := ['\x60', '\x60', '\x60']

/-- The document in a reply: what stands between fences, the opening one preferably marked as
    JSON, or else the whole. -/
def fenced (reply : Chars) : Chars :=
  match afterMark? (fence ++ "json".toList) reply with
  | some rest => beforeMark fence (beforeMark (fence ++ "json".toList) rest)
  | none =>
    match afterMark? fence reply with
    | some rest => beforeMark fence rest
    | none => reply

def document (content : Option String) : Try Value :=
  match content with
  | none => .error (.mismatch (.notContainer .null))
  | some s => (Json.read (Text.trim (String.ofList (fenced s.toList)))).mapError Fault.ofJson

namespace Advisor

def usualNames : TextPairs :=
  [("commandline", "process_command_line"), ("image", "process_path"),
   ("parentimage", "parent_process_path"),
   ("parentcommandline", "parent_process_command_line"), ("user", "user"),
   ("targetfilename", "file_path"), ("destinationip", "dest_ip"),
   ("destinationport", "dest_port"), ("sourceip", "src_ip"), ("sourceport", "src_port"),
   ("targetusername", "user"), ("processid", "process_id"),
   ("parentprocessid", "parent_process_id"), ("hostname", "host"), ("computername", "host"),
   ("queryname", "query"), ("targetobject", "registry_path"), ("details", "registry_value"),
   ("scriptblocktext", "script_block")]

def usualName? (field : String) : Option String :=
  let lower := Text.lower field
  match usualNames.lookup lower with
  | some name => some name
  | none => (usualNames.find? fun n => Text.contains lower n.1 || Text.contains n.1 lower).map (·.2)

def guess (fields : Value) : Try Value := do
  let entries ← (← fields.iterate).mapM fun field => do
    let name := usualName? (← field.asText "lower")
    return (name.map fun n => (field, Value.text n)).toList
  return .map (Value.ofEntries entries.flatten)

def connection (s : Settings) : String × Fields :=
  let key := ("api_key", Value.ofText? s.apiKey)
  if s.provider == "azure" then
    ("AzureOpenAI", [key, ("api_version", .text s.azureVersion),
      ("azure_endpoint", .ofText? s.apiBase)])
  else if s.provider == "groq" then
    ("OpenAI", [key, ("base_url", .text "https://api.groq.com/openai/v1")])
  else
    ("OpenAI", [key] ++ (match s.apiBase with
      | some base => if base.isEmpty then [] else [("base_url", .text base)]
      | none => []))

def ready (s : Settings) : Talk Bool := do
  if !s.hasModel then return false
  if (← get).advising then return true
  if (← get).missing then return false
  try
    let (service, arguments) := connection s
    connect service arguments
    modify fun session => { session with advising := true }
    return true
  catch _ => return false

def suggest (s : Settings) (fields available context : Value) : Talk Value := do
  if !(← ready s) then return ← ofExcept (guess fields)
  try
    let prompt ← ofExcept (Prompt.mappings fields available context)
    let content ← ask (question s.model Prompt.mapperRole (.text prompt) 0.1 1000)
    ofExcept (document content)
  catch _ => ofExcept (guess fields)

/-- A rule and a search that were made up from a description. -/
structure Detection where
  (rule search assumptions : Value)

def Detection.none (reason : String) : Detection := ⟨.null, .null, .ofTexts [reason]⟩

def generate (s : Settings) (r : Prompt.Wish) : Talk Detection := do
  if !s.hasModel then
    return .none "LLM not available - this feature requires AI assistance"
  if !(← ready s) then return .none "Failed to initialize LLM client"
  try
    let prompt ← ofExcept (Prompt.detection r)
    let content ← ask (question s.model Prompt.writerRole (.text prompt) 0.3 2000)
    let answer ← ofExcept (document content)
    return ⟨← ofExcept (answer.get "sigma_yaml"), ← ofExcept (answer.get "spl_query"),
      ← ofExcept (answer.getOr "assumptions" (.list []))⟩
  catch e => return .none ("Error generating detection: " ++ e.message)

def improve (s : Settings) (search rule : Value) : Talk (Value × Value) := do
  if !(← ready s) then return (rule, .list [])
  try
    let prompt := Prompt.improvement search rule
    let content ← ask (question s.model Prompt.editorRole (.text prompt) 0.2 1500)
    let answer ← ofExcept (document content)
    return (← ofExcept (answer.getOr "enhanced_sigma" rule),
      ← ofExcept (answer.getOr "improvements" (.list [])))
  catch _ => return (rule, .list [])

end Advisor

end Huntbook.Chat
