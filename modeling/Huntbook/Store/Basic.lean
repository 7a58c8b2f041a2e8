import Huntbook.Record
import Huntbook.Store.Statement

/-!
# The store

Five tables: profiles and the field names that belong to them, the history of conversions, and two
kinds of sensor configurations.
-/

namespace Huntbook

inductive Store.Part
  | profiles | mappings | conversions | sensors | audits
  deriving DecidableEq

/-- The tables of the database. -/
structure Store where
  (profiles mappings conversions sensors audits : Store.Table)

namespace Store

def Part.layout : Part → Layout
  | .profiles => .profile
  | .mappings => .mapping
  | .conversions => .conversion
  | .sensors => .sensor
  | .audits => .audit

def stampColumn (name : String) : Column := { name, leaning := .number, fallback := .now }

def flagColumn (name : String) (default : Int) : Column :=
  { name, leaning := .number, fallback := .cell (.int default) }

def Part.empty : Part → Table
  | .profiles => { name := "sigma_profiles", columns :=
      [{ name := "name", required := true, unique := true }, { name := "description" },
       { name := "index_name", fallback := .cell (.text "*") }, { name := "sourcetype" },
       flagColumn "cim_enabled" 0, flagColumn "is_default" 0, { name := "macros" },
       stampColumn "created_at", stampColumn "updated_at"] }
  | .mappings => { name := "sigma_field_mappings", columns :=
      [{ name := "profile_id", leaning := .number, required := true },
       { name := "sigma_field", required := true }, { name := "target_field", required := true },
       { name := "status", fallback := .cell (.text "ok") }, { name := "category" },
       { name := "notes" }, stampColumn "created_at", stampColumn "updated_at"] }
  | .conversions => { name := "sigma_conversions", columns :=
      [{ name := "name", required := true }, { name := "conversion_type", required := true },
       { name := "profile_id", leaning := .number }, { name := "input_content", required := true },
       { name := "output_sigma" }, { name := "output_spl" }, { name := "prerequisites" },
       { name := "gap_analysis" }, { name := "health_checks" }, { name := "correlation_notes" },
       flagColumn "llm_used" 0, stampColumn "created_at"] }
  | .sensors => { name := "sysmon_configs", columns :=
      [{ name := "name", required := true }, { name := "version" }, { name := "schema_version" },
       { name := "enabled_event_ids" }, { name := "disabled_event_ids" }, { name := "rules_json" },
       { name := "raw_xml" }, flagColumn "is_active" 1, stampColumn "created_at",
       stampColumn "updated_at"] }
  | .audits => { name := "windows_audit_configs", columns :=
      [{ name := "name", required := true }, { name := "categories_json" },
       { name := "raw_content" }, flagColumn "is_active" 1, stampColumn "created_at",
       stampColumn "updated_at"] }

def table (s : Store) : Part → Table
  | .profiles => s.profiles
  | .mappings => s.mappings
  | .conversions => s.conversions
  | .sensors => s.sensors
  | .audits => s.audits

def put (s : Store) (part : Part) (t : Table) : Store :=
  match part with
  | .profiles => { s with profiles := t }
  | .mappings => { s with mappings := t }
  | .conversions => { s with conversions := t }
  | .sensors => { s with sensors := t }
  | .audits => { s with audits := t }

def empty : Store :=
  ⟨Part.profiles.empty, Part.mappings.empty, Part.conversions.empty, Part.sensors.empty,
   Part.audits.empty⟩

def stampCell (now : Moment) : Cell := .text (now.textWith " ")

abbrev Work := ExceptT Fault (StateM Store)

def Work.ask {α : Type} (f : Store → Try α) : Work α := do
  match f (← get) with
  | .ok a => return a
  | .error e => throw e

def Work.change {α : Type} (f : Store → Except Error (α × Store)) : Work α := do
  match f (← get) with
  | .ok (a, s) => set s; return a
  | .error e => throw (.store e)

def bound (v : Value) : Except Error Cell := Cell.ofValue 1 v

def rowsOf (s : Store) (part : Part) (id : Value) : Try (List Row) := do
  return (s.table part).withKey (← (bound id).mapError .store)

def found? (s : Store) (part : Part) (id : Value) : Try (Option Record) := do
  match ← s.rowsOf part id with
  | [] => return none
  | row :: _ => return some (← Record.ofRow part.layout row)

def recordsOf (part : Part) (rows : List Row) : Try (List Record) :=
  rows.mapM (Record.ofRow part.layout)

def add (s : Store) (part : Part) (now : Moment) (values : Fields) :
    Except Error (Int × Store) := do
  let cells ← Cell.ofValues (values.map (·.2))
  let (id, t) ← (s.table part).insert (stampCell now) ((values.map (·.1)).zip cells)
  return (id, s.put part t)

def settings : Table where
  name := "sigma_settings"
  columns := [{ name := "key", required := true, unique := true },
    { name := "value", required := true }, stampColumn "updated_at"]

def tables (s : Store) : List Table :=
  [s.profiles, s.mappings, s.conversions, settings, s.sensors, s.audits]

def modify (s : Store) (part : Part) (now : Moment) (columns : Texts)
    (values : List Value) : Except Error (Nat × Store) := do
  let t := s.table part
  let change ← Change.ofColumns t columns
  let (n, t) ← change.run s.tables now t values
  return (n, s.put part t)

def drop (s : Store) (part : Part) (id : Value) : Except Error (Bool × Store) := do
  let key ← bound id
  let (n, t) := (s.table part).erase fun r => key.whole? == some r.id
  return (n > 0, s.put part t)

def flag (v : Value) : Value := .int (if v.truthy then 1 else 0)

def valuesOf (r : Record) (fields : Texts) : Fields :=
  fields.map fun name => (name, match r.layout.fields.lookup name with
    | some (.flag _) => flag (r.get name)
    | _ => r.get name)

def addRecord (part : Part) (now : Moment) (fields : Texts) (r : Record) : Work Record := do
  let id ← Work.change fun s => s.add part now (valuesOf r fields)
  return r.set "id" (.int id)

def updateRecord (part : Part) (now : Moment) (id updates : Value) : Work (Option Record) := do
  match updates with
  | .map entries =>
    let columns := entries.map (·.1.plain)
    let _ ← Work.change fun s => s.modify part now columns (entries.map (·.2) ++ [id])
    Work.ask fun s => s.found? part id
  | v => throw (.noOperation v.kind "keys")

/-- The fields that the first profile names, by the category of the events that have them. -/
def firstFields : List (String × Texts) :=
  [("process_creation", ["CommandLine", "Image", "ParentImage", "ParentCommandLine", "User",
     "ProcessId", "ParentProcessId", "CurrentDirectory", "IntegrityLevel", "Hashes",
     "OriginalFileName"]),
   ("file_event", ["TargetFilename", "SourceFilename"]),
   ("network_connection", ["DestinationIp", "DestinationPort", "SourceIp", "SourcePort",
     "DestinationHostname", "Protocol"]),
   ("registry_event", ["TargetObject", "Details"]), ("dns_query", ["QueryName", "QueryResults"]),
   ("powershell", ["ScriptBlockText"])]

/-- The field names of the second profile, which follows a common model, by the category of the
    events: the field, and its name in the model. -/
def modelFields : List (String × TextPairs) :=
  [("process_creation", [("CommandLine", "process_command_line"), ("Image", "process_path"),
     ("ParentImage", "parent_process_path"), ("ParentCommandLine", "parent_process_command_line"),
     ("User", "user"), ("ProcessId", "process_id"), ("ParentProcessId", "parent_process_id")]),
   ("file_event", [("TargetFilename", "file_path")]),
   ("network_connection", [("DestinationIp", "dest_ip"), ("DestinationPort", "dest_port"),
     ("SourceIp", "src_ip"), ("SourcePort", "src_port")]),
   ("authentication", [("TargetUserName", "user"), ("IpAddress", "src_ip")])]

def addProfile (now : Moment) (s : Store) (profile : Fields)
    (fields : List (String × String × String)) : Except Error Store := do
  let (id, s) ← s.add .profiles now profile
  fields.foldlM (fun s (field, target, category) => do
    return (← s.add .mappings now [("profile_id", .int id), ("sigma_field", .text field),
      ("target_field", .text target), ("status", .text "ok"), ("category", .text category)]).2) s

def seed (now : Moment) : Except Error Store := do
  let s ← addProfile now empty
    [("name", .text "Default (Windows Sysmon)"),
     ("description", .text "Default profile for Windows Sysmon logs"),
     ("index_name", .text "windows"),
     ("sourcetype", .text "XmlWinEventLog:Microsoft-Windows-Sysmon/Operational"),
     ("cim_enabled", .int 0), ("is_default", .int 1)]
    (firstFields.flatMap fun (category, fields) => fields.map fun field => (field, field, category))
  addProfile now s
    [("name", .text "Splunk CIM"),
     ("description", .text "Splunk Common Information Model field names"),
     ("index_name", .text "*"), ("sourcetype", .text "*"), ("cim_enabled", .int 1),
     ("is_default", .int 0)]
    (modelFields.flatMap fun (category, fields) => fields.map fun (field, target) =>
      (field, target, category))

def seeded (now : Moment) : Store :=
  match seed now with
  | .ok s => s
  | .error _ => empty

end Store

end Huntbook

namespace Huntbook.Store

/-! ## Profiles and their field names -/

def profileRecords (s : Store) : Try (List Record) :=
  recordsOf .profiles (falling "is_default" (rising "name" s.profiles.rows))

def defaultProfile? (s : Store) : Try (Option Record) :=
  (s.profiles.rows.find? fun r => (r.get "is_default").equals (.int 1)).mapM
    (Record.ofRow .profile)

def profileColumns : Texts :=
  ["name", "description", "index_name", "sourcetype", "cim_enabled", "is_default", "macros"]

def createProfile (now : Moment) (r : Record) : Work Record :=
  addRecord .profiles now profileColumns r

def updateProfile (now : Moment) (id updates : Value) : Work (Option Record) :=
  updateRecord .profiles now id updates

def deleteProfile (id : Value) : Work Bool := Work.change fun s => s.drop .profiles id

def mappingRows (s : Store) (profile : Cell) : List Row :=
  s.mappings.rows.filter fun r => (r.get "profile_id").equals profile.toNumber

def mappingRecords (s : Store) (profile : Value) : Try (List Record) := do
  let key ← (bound profile).mapError .store
  recordsOf .mappings (rising "sigma_field" (s.mappingRows key))

def fieldTable (s : Store) (profile : Value) : Try Entries := do
  let records ← s.mappingRecords profile
  return Value.ofEntries (records.map fun r => (r.get "sigma_field", r.get "target_field"))

def mappingColumns : Texts :=
  ["profile_id", "sigma_field", "target_field", "status", "category", "notes"]

def createMapping (now : Moment) (r : Record) : Work Record :=
  addRecord .mappings now mappingColumns r

def updateMapping (now : Moment) (id updates : Value) : Work (Option Record) :=
  updateRecord .mappings now id updates

def deleteMapping (id : Value) : Work Bool := Work.change fun s => s.drop .mappings id

/-- All field names of a profile replaced by others, which are counted. If one of them is
    refused, nothing changes. -/
def importMappings (now : Moment) (profile : Value) (records : List Record) : Work Nat :=
  Work.change fun s => do
    let key ← bound profile
    let (_, t) := s.mappings.erase fun r => (r.get "profile_id").equals key.toNumber
    let s ← records.foldlM (fun s r => do
      return (← s.add .mappings now (valuesOf (r.set "profile_id" profile) mappingColumns)).2)
      (s.put .mappings t)
    return (records.length, s)

/-! ## The history of conversions -/

def conversionColumns : Texts :=
  ["name", "conversion_type", "profile_id", "input_content", "output_sigma", "output_spl",
   "prerequisites", "gap_analysis", "health_checks", "correlation_notes", "llm_used"]

def saveConversion (now : Moment) (r : Record) : Work Record :=
  addRecord .conversions now conversionColumns r

def deleteConversion (id : Value) : Work Bool := Work.change fun s => s.drop .conversions id

/-- A part of a list: `limit` items from `offset` on; a negative limit is none, a negative offset
    is zero. Both are whole numbers; the offset is not looked at if nothing is asked for. -/
def page {α : Type} (limit offset : Cell) (items : List α) : Except Error (List α) :=
  match limit.whole? with
  | none => .error .keyMismatch
  | some 0 => .ok []
  | some n =>
    match offset.whole? with
    | none => .error .keyMismatch
    | some k =>
      let rest := items.drop k.toNat
      .ok (if n < 0 then rest else rest.take n.toNat)

def conversionRecords (s : Store) (limit offset direction : Value) :
    Try (List Record) := do
  let all := falling "created_at" s.conversions.rows
  let rows ← Except.mapError Fault.store <|
    if direction.truthy then do
      let cells ← Cell.ofValues [direction, limit, offset]
      let wanted := (cells.getD 0 .null).toText
      page (cells.getD 1 .null) (cells.getD 2 .null)
        (all.filter fun r => (r.get "conversion_type").equals wanted)
    else do
      let cells ← Cell.ofValues [limit, offset]
      page (cells.getD 0 .null) (cells.getD 1 .null) all
  recordsOf .conversions rows

/-- The instant that many days before another, where a cell says how many; none if it names no
    number of days or the instant is out of range. -/
def daysBefore? (now : Moment) (days : Cell) : Option Instant := do
  let text ← days.textValue?
  Instant.resolve? (Instant.ofMoment now) ["-" ++ text ++ " days"]

def deleteOld (now : Moment) (days : Value) : Work Nat :=
  Work.change fun s => do
    let cell ← bound days
    let limit := (daysBefore? now cell).map fun i => Cell.text i.stampText
    let (n, t) := s.conversions.erase fun r => match limit with
      | some limit => !(r.get "created_at").isNull && (r.get "created_at").less limit
      | none => false
    return (n, s.put .conversions t)

def historyCounts (s : Store) : Value :=
  let rows := s.conversions.rows
  let directions := Value.distinct ((rising "conversion_type" rows).map (·.value "conversion_type"))
  let count (p : Row → Bool) : Value := .int (rows.filter p).length
  .record [("total", .int rows.length),
    ("by_type", .map (directions.map fun d =>
      (d, count fun r => (r.value "conversion_type").same d))),
    ("llm_used", count fun r => (r.get "llm_used").equals (.int 1))]

/-! ## Configurations and coverage -/

def configColumns : Part → Texts
  | .sensors => ["name", "version", "schema_version", "enabled_event_ids", "disabled_event_ids",
      "rules_json", "raw_xml", "is_active"]
  | _ => ["name", "categories_json", "raw_content", "is_active"]

def saveConfig (part : Part) (now : Moment) (r : Record) : Work Record :=
  if (r.get "id").truthy then do
    let values := valuesOf r (configColumns part)
    let _ ← Work.change fun s =>
      s.modify part now (values.map (·.1)) (values.map (·.2) ++ [r.get "id"])
    return r
  else addRecord part now (configColumns part) r

def configRecords (s : Store) (part : Part) : Try (List Record) :=
  recordsOf part (falling "created_at" (s.table part).rows)

def active? (s : Store) (part : Part) : Try (Option Record) :=
  ((falling "updated_at"
    ((s.table part).rows.filter fun r => (r.get "is_active").equals (.int 1))).head?).mapM
      (Record.ofRow part.layout)

/-- The configuration with a key made the only active one, and whether there is one. The others
    are switched off even if there is none. -/
def activate (part : Part) (id : Value) : Work Bool :=
  Work.change fun s => do
    let key ← bound id
    let t := s.table part
    let chosen (r : Row) : Bool := key.whole? == some r.id
    let rows := t.rows.map fun r => r.set "is_active" (.int (if chosen r then 1 else 0))
    return (t.rows.any chosen, s.put part { t with rows })

def isAmong (items x : Value) : Try Bool :=
  match items with
  | .list xs => .ok (xs.any x.same)
  | .map es => if x.hashable then .ok (es.any fun e => e.1.same x) else .error x.keyFault
  | .text s =>
    match x with
    | .text t => .ok (Text.contains s t)
    | x => .error (.mismatch (.other
        s!"'in <string>' requires string as left operand, not {x.kind.name}"))
  | v => .error (.mismatch (.notContainer v.kind))

def missing (enabled : Value) (needed : List Value) : Try (List Value) := do
  let kept ← needed.mapM fun x => do return if ← isAmong enabled x then [] else [x]
  return kept.flatten

/-- The events that are logged, as far as it is known. -/
structure Coverage where
  sensor : Option (Value × List Value)
  audit : Option (List Value)
  needed : Bool

namespace Coverage

def sensorCovers (c : Coverage) : Bool := c.sensor.any (·.2.isEmpty)

def covers (c : Coverage) : Bool := c.sensorCovers || (c.audit.isSome && !c.needed)

def advice (c : Coverage) : Texts :=
  (match c.sensor with
    | some (_, []) => []
    | some (_, ids) => ["Enable Sysmon Event IDs: " ++ ", ".intercalate (ids.map Value.plain)]
    | none => [])
  ++ (if c.sensor.isNone && c.audit.isNone then
      ["No Sysmon or Windows Audit configuration uploaded. "
        ++ "Upload your configs to enable coverage checking."]
    else [])

def toValue (c : Coverage) : Value :=
  .record
    [("sysmon_coverage", .record
      [("available", .bool c.sensor.isSome),
       ("enabled_ids", (c.sensor.map (·.1)).getD (.list [])),
       ("missing_ids", .list ((c.sensor.map (·.2)).getD [])),
       ("covered", .bool c.sensorCovers)]),
     ("audit_coverage", .record
      [("available", .bool c.audit.isSome),
       ("enabled_policies", .list (c.audit.getD [])),
       ("covered", .bool c.audit.isSome)]),
     ("overall_covered", .bool c.covers),
     ("recommendations", .ofTexts c.advice)]

end Coverage

def coverage (s : Store) (needed : Value) : Try Coverage := do
  let sensor ← match ← s.active? .sensors with
    | none => pure none
    | some r => do
      let enabled ← r.unpack "enabled_event_ids"
      let lacking ← missing enabled (← needed.iterate)
      let _ ← lacking.mapM Value.written
      pure (some (enabled, lacking))
  let audit ← match ← s.active? .audits with
    | none => pure none
    | some r => do pure (some (← r.auditedNames))
  return ⟨sensor, audit, needed.truthy⟩

end Huntbook.Store
