import Huntbook.Web.Playbooks
import Huntbook.Web.Records
import Huntbook.Web.Conversions

/-!
# Routes

The endpoints of the server, and how a request finds the one that serves it: the first route
whose pattern and method fit.
-/

namespace Huntbook.Web

def simple (method pattern : String) (run : Input → Serving Value) : Route :=
  { method, pattern := .ofText pattern, run }

def posting (method pattern : String) (form : Form) (run : Input → Serving Value) : Route :=
  { method, pattern := .ofText pattern, body := some form.toKind, run }

def querying (pattern : String) (query : List Form.Field)
    (run : Input → Serving Value) : Route :=
  { method := "GET", pattern := .ofText pattern, query, run }

def optionalTexts (names : Texts) : List Form.Field :=
  names.map fun n => Form.optional n

def pageFields : List Form.Field :=
  [Form.withDefault "limit" (.within (some 1) (some 200)) (.int 50),
   Form.withDefault "offset" (.within (some 0) none) (.int 0)]

def playbookRoutes : List Route :=
  [simple "GET" "/" fun _ => return Playbooks.welcome,
   simple "GET" "/health" fun _ => Playbooks.health,
   querying "/api/playbooks"
     [Form.optional "limit" (.within (some 1) (some 100)),
      Form.withDefault "offset" (.optional (.within (some 0) none)) (.int 0)] Playbooks.page,
   simple "GET" "/api/playbooks/:playbook_id" Playbooks.single,
   querying "/api/search" (optionalTexts ["query", "technique", "tactic", "tag", "severity"])
     Playbooks.search,
   simple "GET" "/api/playbooks/:playbook_id/export/:siem" Playbooks.exported,
   simple "GET" "/api/mitre/tactics" fun _ => return .ofTexts Attack.tacticNames,
   simple "GET" "/api/mitre/techniques/:technique_id" Playbooks.technique,
   simple "GET" "/api/mitre/gaps" fun _ => Playbooks.gaps,
   posting "POST" "/api/ai/explain" Form.explain Assistance.explain,
   posting "POST" "/api/ai/ask" Form.ask Assistance.answer,
   posting "POST" "/api/ai/suggest" Form.suggest Assistance.advise,
   posting "POST" "/api/ai/generate" Form.generate Assistance.adapt,
   simple "GET" "/api/stats" fun _ => Playbooks.stats,
   posting "POST" "/api/playbooks" Form.createPlaybook Playbooks.create,
   posting "PUT" "/api/playbooks/:playbook_id" Form.updatePlaybook Playbooks.update,
   simple "DELETE" "/api/playbooks/:playbook_id" Playbooks.delete,
   posting "POST" "/api/config/ai" Form.assistantConfig Assistance.configure,
   posting "POST" "/api/ai/test" Form.assistantTest Assistance.tryKey,
   simple "GET" "/api/ai/status" fun _ => Assistance.status]

def ruleRoutes : List Route :=
  [simple "GET" "/api/sigma/repo" fun _ => return (← get).library.stats,
   querying "/api/sigma/rules"
     (optionalTexts ["search", "product", "service", "category"] ++ pageFields) Conversions.rules,
   simple "GET" "/api/sigma/rules/*path" Conversions.rule,
   simple "GET" "/api/sigma/filters" fun _ => Serving.ask (·.library.choices),
   posting "POST" "/api/sigma/validate" Form.validateRule Conversions.validate,
   posting "POST" "/api/sigma/convert/sigma-to-spl" Form.convertRule Conversions.toSearch,
   posting "POST" "/api/sigma/convert/spl-to-sigma" Form.convertSearch Conversions.toRule,
   posting "POST" "/api/sigma/convert/describe" Form.describe Conversions.fromDescription]

def profileRoutes : List Route :=
  [simple "GET" "/api/sigma/profiles" fun _ => Records.shownAll Store.profileRecords,
   posting "POST" "/api/sigma/profiles" Form.profileCreate Records.createProfile,
   simple "GET" "/api/sigma/profiles/#profile_id"
     (Records.single .profiles "profile_id" Records.noProfile),
   posting "PATCH" "/api/sigma/profiles/#profile_id" Form.profileUpdate Records.updateProfile,
   simple "DELETE" "/api/sigma/profiles/#profile_id" fun i =>
     Records.done "Profile deleted successfully" Records.noProfile
       (Store.deleteProfile (i.arg "profile_id")),
   simple "GET" "/api/sigma/profiles/#profile_id/mappings" Records.mappings,
   posting "POST" "/api/sigma/profiles/#profile_id/mappings" Form.mappingCreate
     Records.createMapping,
   posting "PATCH" "/api/sigma/profiles/#profile_id/mappings/#mapping_id" Form.mappingUpdate
     Records.updateMapping,
   simple "DELETE" "/api/sigma/profiles/#profile_id/mappings/#mapping_id" fun i =>
     Records.done "Mapping deleted successfully" Records.noMapping
       (Store.deleteMapping (i.arg "mapping_id")),
   posting "POST" "/api/sigma/profiles/#profile_id/mappings/bulk" Form.mappingImport
     Records.importMappings,
   { method := "POST", pattern := .ofText "/api/sigma/profiles/#profile_id/mappings/suggest"
     body := some .texts, run := Records.suggest },
   querying "/api/sigma/history" (pageFields ++ optionalTexts ["conversion_type"])
     Records.history,
   simple "GET" "/api/sigma/history/#conversion_id"
     (Records.single .conversions "conversion_id" Records.noConversion),
   simple "DELETE" "/api/sigma/history/#conversion_id" fun i =>
     Records.done "Conversion deleted successfully" Records.noConversion
       (Store.deleteConversion (i.arg "conversion_id")),
   simple "GET" "/api/sigma/llm/status" fun _ => Conversions.advisor]

def configRoutes (path : String) (part : Store.Part) (create : Input → Serving Value) :
    List Route :=
  [simple "GET" path fun _ => Records.shownAll (·.configRecords part),
   simple "POST" path create,
   simple "GET" (path ++ "/active") fun _ => Records.active part,
   simple "GET" (path ++ "/#config_id") (Records.single part "config_id" Records.noConfig),
   simple "PUT" (path ++ "/#config_id/activate") (Records.activate part),
   simple "DELETE" (path ++ "/#config_id") (Records.deleteConfig part)]

def routes : List Route :=
  playbookRoutes ++ ruleRoutes ++ profileRoutes
    ++ configRoutes "/api/sigma/sysmon-configs" .sensors Records.createSensor
    ++ configRoutes "/api/sigma/audit-configs" .audits Records.createAudit
    ++ [simple "POST" "/api/sigma/check-coverage" Records.coverage]

/-- What a path leads to. -/
inductive Way
  | served (route : Route) (values : TextPairs)
  | wrongMethod
  | wrongSlash
  | none

def fitting (all : List Route) (path : String) : List (Route × TextPairs) :=
  if path.toList.head? == some '/' then
    let segments := segmentsOf path
    all.filterMap fun route => (route.pattern.values? segments).map (route, ·)
  else []

def wayOf (all : List Route) (r : Request) : Way :=
  match fitting all r.path with
  | [] => if r.path != "/" && !(fitting all (otherSlash r.path)).isEmpty then .wrongSlash else .none
  | found =>
    match found.find? fun f => f.1.method == r.method with
    | some (route, values) => .served route values
    | none => .wrongMethod

def Server.serve (s : Server) (now : Moment) (route : Route) (values : TextPairs)
    (r : Request) : Try Reply × Server :=
  match route.input now values r with
  | .error (.invalid errors) =>
    (match Fault.ofForm errors with
      | .invalid errors => .ok (.ofDetail 422 (.list (errors.map (·.toDetailedValue))))
      | f => .error f, s)
  | .error .unreadable => (.ok (.ofDetail 400 (.text "There was an error parsing the body")), s)
  | .ok input =>
    let (result, s) := (route.run input).run.run s
    (match result with
      | .ok v => (Reply.bodyOf v).map fun body => ⟨200, body⟩
      | .error (.denied status detail) => .ok (.ofDetail status (.text detail))
      | .error (.fault f) => .error f, s)

def Server.respond (s : Server) (now : Moment) (r : Request) : Try Reply × Server :=
  let (reply, s) := match wayOf routes r with
    | .served route values => s.serve now route values r
    | .wrongMethod => (.ok (.ofDetail 405 (.text "Method Not Allowed")), s)
    | .wrongSlash => (.ok ⟨307, .null⟩, s)
    | .none => (.ok (.ofDetail 404 (.text "Not Found")), s)
  let reply := reply.bind Reply.encodable
  (if r.method == "HEAD" then reply.map fun reply => { reply with body := .null } else reply, s)

end Huntbook.Web
