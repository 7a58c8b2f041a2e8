import Huntbook.Form.Conversion
import Huntbook.Web.Server

/-!
# Endpoints for what the store keeps

Profiles and their field names, the history of conversions, and the configurations of sensors and
of auditing.
-/

namespace Huntbook.Web.Records

open Serving

def shownAll (f : Store → Try (List Record)) : Serving Value :=
  ask fun s => do return .list (← (← f s.store).mapM Record.toValue)

def shownOr (detail : String) (r : Option Record) : Serving Value :=
  match r with
  | some r => orFault r.toValue
  | none => deny 404 detail

def single (part : Store.Part) (name detail : String) (i : Input) : Serving Value := do
  shownOr detail (← ask fun s => s.store.found? part (i.arg name))

def done (message detail : String) (w : Store.Work Bool) : Serving Value := do
  if ← stored w then return .record [("message", .text message)] else deny 404 detail

def noProfile : String := "Profile not found"

def noMapping : String := "Mapping not found"

def noConversion : String := "Conversion not found"

def noConfig : String := "Configuration not found"

def createProfile (i : Input) : Serving Value := do
  let names := ["name", "description", "index_name", "sourcetype", "cim_enabled"]
  let r ← orFault do
    let r ← Record.ofFields .profile i.now (names.map fun n => (n, i.field n))
    if (i.field "macros").truthy then r.pack "macros" (i.field "macros") else return r
  orFault (← stored (Store.createProfile i.now r)).toValue

def updateProfile (i : Input) : Serving Value := do
  let updates ← i.givenFields.mapM fun e => do
    if e.1.same (.text "macros") && !e.2.isNull then
      return (e.1, .text (← orFault (Json.write e.2)))
    else return e
  shownOr noProfile (← stored (Store.updateProfile i.now (i.arg "profile_id") (.map updates)))

def mappings (i : Input) : Serving Value :=
  shownAll fun s => s.mappingRecords (i.arg "profile_id")

def mappingOf (now : Moment) (profile fields : Value) : Try Record :=
  let names := ["sigma_field", "target_field", "status", "category", "notes"]
  Record.ofFields .mapping now
    (("profile_id", profile) :: names.map fun n => (n, (fields.field? n).getD .null))

def createMapping (i : Input) : Serving Value := do
  let r ← orFault (mappingOf i.now (i.arg "profile_id") i.body)
  orFault (← stored (Store.createMapping i.now r)).toValue

def updateMapping (i : Input) : Serving Value := do
  shownOr noMapping
    (← stored (Store.updateMapping i.now (i.arg "mapping_id") (.map i.givenFields)))

def importMappings (i : Input) : Serving Value := do
  let profile := i.arg "profile_id"
  let records ← orFault do
    (← (i.field "mappings").iterate).mapM (mappingOf i.now profile)
  return .record [("imported", .int (← stored (Store.importMappings i.now profile records)))]

def suggest (i : Input) : Serving Value := do
  talk (Chat.Advisor.suggest (← get).settings i.body .null .null)

def history (i : Input) : Serving Value := do
  let found ← shownAll fun s =>
    s.conversionRecords (i.arg "limit") (i.arg "offset") (i.arg "conversion_type")
  return .record [("conversions", found), ("limit", i.arg "limit"), ("offset", i.arg "offset")]

def createConfig (part : Store.Part) (name : String) (plain : Fields)
    (packed : TextPairs) (i : Input) : Serving Value := do
  let r ← orFault do
    let document ← i.document
    let fields ← ((("name", Value.text name) :: plain).mapM fun (n, default) => do
      return (n, ← document.getOr n default))
    let r ← Record.ofFields part.layout i.now fields
    packed.foldlM (fun r (label, field) => do
      r.pack field (← document.getOr label (.list []))) r
  orFault (← stored (Store.saveConfig part i.now r)).toValue

def createSensor : Input → Serving Value :=
  createConfig .sensors "Uploaded Config"
    [("version", .text ""), ("schema_version", .text ""), ("is_active", .bool true),
     ("raw_xml", .null)]
    [("enabled_event_ids", "enabled_event_ids"), ("disabled_event_ids", "disabled_event_ids"),
     ("rules", "rules_json")]

def createAudit : Input → Serving Value :=
  createConfig .audits "Uploaded Audit Policy"
    [("is_active", .bool true), ("raw_content", .null)] [("categories", "categories_json")]

def active (part : Store.Part) : Serving Value := do
  match ← ask fun s => s.store.active? part with
  | none => return .record [("available", .bool false), ("config", .null)]
  | some r => return .record [("available", .bool true), ("config", ← orFault r.toValue)]

def activate (part : Store.Part) (i : Input) : Serving Value :=
  done "Configuration activated successfully" noConfig (Store.activate part (i.arg "config_id"))

def deleteConfig (part : Store.Part) (i : Input) : Serving Value :=
  done "Configuration deleted successfully" noConfig
    (Store.Work.change fun s => s.drop part (i.arg "config_id"))

def coverage (i : Input) : Serving Value := do
  let document ← orFault i.document
  let needed ← orFault (document.getOr "event_ids" (.list []))
  return (← ask fun s => s.store.coverage needed).toValue

end Huntbook.Web.Records
