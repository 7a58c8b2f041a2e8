import Huntbook.Conversion.Event
import Huntbook.Form.Basic

/-!
# Requirements

What must be logged for a detection rule to find anything: the events it asks for, the logs that
record them, and how to set those logs up.
-/

namespace Huntbook.Conversion

/-- A log, with the events in it that are needed. -/
structure RequiredLog (α : Type) where
  info : LogInfo
  events : List α

/-- What must be logged for a rule to find anything. -/
structure Requirements where
  (product service category : Option String)
  logs : List (RequiredLog Event)
  events : List Event
  (channels configuration : Texts)

def Requirements.hasAlternatives (r : Requirements) : Bool :=
  r.logs.any fun l => !l.info.alternatives.isEmpty

def digitRuns (current : Chars) : Chars → List Chars
  | [] => if current.isEmpty then [] else [current.reverse]
  | c :: cs =>
    if Text.isDecimal c then digitRuns (c :: current) cs
    else if current.isEmpty then digitRuns [] cs
    else current.reverse :: digitRuns [] cs

def codesOf : Value → Try (List Value)
  | .int n => .ok (if n == 0 then [] else [.int n])
  | .bool b => .ok (if b then [.bool b] else [])
  | .text s => (digitRuns [] s.toList).mapM fun ds => (Fault.readBase 10 ds).map .int
  | _ => .ok []

def isDigits (s : String) : Bool := !s.isEmpty && s.toList.all Text.isDigit

def itemCode? : Value → Try (Option Value)
  | .int n => .ok (some (.int n))
  | .bool b => .ok (some (.bool b))
  | .text s => if isDigits s then (Fault.readBase 10 s.toList).map (some ∘ .int) else .ok none
  | _ => .ok none

def fieldCodes : Value → Try (List Value)
  | .int n => .ok [.int n]
  | .bool b => .ok [.bool b]
  | .list items => do return (← items.mapM itemCode?).filterMap id
  | _ => .ok []

def codeFields : Texts := ["EventID", "EventCode", "event_id", "eventid"]

def selectionCodes (block : Entries) : Try (List Value) := do
  let codes ← codeFields.mapM fun field =>
    match Value.find? block (.text field) with
    | some v => fieldCodes v
    | none => .ok []
  return codes.flatten

def ruleCodes (rule : Value) : Try (List Value) := do
  let detection ← rule.getOr "detection" (.map [])
  let blocks ← detection.entries
  let codes ← blocks.mapM fun (name, block) =>
    if name.same (.text "condition") then .ok []
    else match block with
      | .map entries => selectionCodes entries
      | _ => .ok []
  return codes.flatten

def eventsOf (codes : List Value) : List Event := (Value.distinct codes).map Event.ofCode

def Event.logKey (e : Event) : String := Text.lower e.source

def sourceKeys (service category : Value) : Try Texts :=
  if service.truthy then
    match service with
    | .bytes _ => .ok []
    | service => service.lower.map ([·])
  else if category.truthy then
    if category.hashable then
      .ok ((categoryLogs.find? fun c => category.same (.text c.1)).map (·.2) |>.getD [])
    else .error category.keyFault
  else .ok []

def addKeys (keys more : Texts) : Texts :=
  more.foldl (fun keys s => if s.isEmpty || keys.contains s then keys else keys ++ [s]) keys

def requiredLogs {α : Type} (sourceOf : α → Try String)
    (isWindows : Bool) (service category : Value) (events : List α) :
    Try (List (RequiredLog α)) := do
  let start ← sourceKeys service category
  let keyed ← events.mapM fun e => (sourceOf e).map (·, e)
  let logs := (addKeys start (keyed.map (·.1))).filterMap fun key =>
    (logInfo? key).map fun info => ⟨info, (keyed.filter (·.1 == key)).map (·.2)⟩
  if logs.isEmpty && isWindows then
    return ((logInfo? "sysmon").map fun info => ⟨info, events⟩).toList
  else return logs

def serviceChannels : TextPairs :=
  [("sysmon", "Microsoft-Windows-Sysmon/Operational"), ("security", "Security"),
   ("system", "System"), ("powershell", "Microsoft-Windows-PowerShell/Operational")]

def categoryConfiguration : List (String × Texts) :=
  [("process_creation",
    ["Enable command line logging (GPO required for EventID 4688)",
     "Sysmon installed and configured (for EventID 1)"]),
   ("network_connection", ["Sysmon with network logging enabled"]),
   ("dns_query", ["Sysmon v10+ with DNS logging enabled"])]

def sourceName (key : String) (v : Value) : Except Form.Error (Option String) :=
  match v with
  | .null => .ok none
  | v => ((Form.textOf v).map some).mapError fun p => ⟨[.name "log_source", .name key], p⟩

def errorsOf {α : Type} (results : List (Except Form.Error α)) : List Form.Error :=
  results.filterMap fun
    | .error e => some e
    | .ok _ => none

def sourceNames (product service category : Value) :
    Try (Option String × Option String × Option String) :=
  match sourceName "product" product, sourceName "service" service,
    sourceName "category" category with
  | .ok product, .ok service, .ok category => .ok (product, service, category)
  | product, service, category => .error (.ofForm (errorsOf [product, service, category]))

def isWindows : Value → Try Bool
  | .bytes _ => .ok false
  | product => product.lower.map (· == "windows")

def requirements (rule : Value) (codes : Try (List Value)) :
    Try Requirements := do
  let source ← rule.getOr "logsource" (.map [])
  let product ← source.getOr "product" (.text "")
  let isWindows ← isWindows product
  let service ← source.getOr "service" (.text "")
  let category ← source.getOr "category" (.text "")
  let events := eventsOf ((← codes) ++ (← ruleCodes rule))
  let channels := (serviceChannels.filter fun s => service.same (.text s.1)).map (·.2)
  let configuration :=
    ((categoryConfiguration.find? fun c => category.same (.text c.1)).map (·.2)).getD []
  let logs ← requiredLogs (fun e => .ok e.logKey) isWindows service category events
  let (product, service, category) ← sourceNames (← source.getOr "product" (.text "unknown"))
    (← source.get "service") (← source.get "category")
  return ⟨product, service, category, logs, events, channels, configuration⟩

def RequiredLog.toValue {α : Type} (eventValue : α → Value) (l : RequiredLog α) : Value :=
  .record [("name", .text l.info.name), ("description", .text l.info.description),
    ("windows_channel", .text l.info.channel), ("splunk_sourcetype", .text l.info.sourcetype),
    ("event_ids", .list (l.events.map eventValue)),
    ("setup_instructions", .ofTexts l.info.setup),
    ("alternatives", .list (l.info.alternatives.map Alternative.toValue))]

def Requirements.toValue (r : Requirements) : Value :=
  .record
    [("log_source", .record [("product", .ofText? r.product), ("service", .ofText? r.service),
      ("category", .ofText? r.category)]),
     ("required_logs", .list (r.logs.map (RequiredLog.toValue Event.toValue))),
     ("event_ids", .list (r.events.map Event.toValue)),
     ("channels", .ofTexts r.channels),
     ("configuration", .ofTexts r.configuration),
     ("has_alternatives", .bool r.hasAlternatives)]

end Huntbook.Conversion
