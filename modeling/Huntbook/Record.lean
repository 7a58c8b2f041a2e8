import Huntbook.Json.Writer
import Huntbook.Store.Table
import Huntbook.Value.Access

/-!
# Records

What the store keeps, outside of the store: a value for each field of a layout. A layout says of
each field what it is for.
-/

namespace Huntbook

/-- What a field is for, and what it holds if nothing is given. -/
inductive Role
  | plain (default : Value)
  | flag (default : Bool)
  | choice (word : String) (options : Texts)
  /-- A document kept as its JSON text and shown under a label; a text that is empty or missing
      stands for `empty`. -/
  | packed (default : Value) (label : String) (empty : Value)
  | stamp
  | hidden (default : Value)

def Role.default (now : Moment) : Role → Value
  | .plain v => v
  | .flag b => .bool b
  | .choice _ options => .text (options.headD "")
  | .packed v _ _ => v
  | .stamp => .moment now
  | .hidden v => v

structure Layout where
  fields : List (String × Role)

/-- The values of the fields of a layout. -/
structure Record where
  layout : Layout
  values : Fields

namespace Record

def get (r : Record) (field : String) : Value := (r.values.lookup field).getD .null

def set (r : Record) (field : String) (v : Value) : Record :=
  { r with values := r.values.map fun e => if e.1 == field then (field, v) else e }

def ofFields (layout : Layout) (now : Moment) (given : Fields) : Try Record :=
  match given.find? fun g => (layout.fields.lookup g.1).isNone with
  | some g => .error (.mismatch (.other s!"unexpected field '{g.1}'"))
  | none => .ok ⟨layout, layout.fields.map fun (name, role) =>
      (name, (given.lookup name).getD (role.default now))⟩

def unpacked (v empty : Value) (room : Nat := Json.deepest) : Try Value :=
  if !v.truthy then .ok empty
  else match v with
    | .text s => (Json.read s room).mapError Fault.ofJson
    | v => .error (.mismatch (.other
        s!"the JSON object must be str, bytes or bytearray, not {v.kind.name}"))

/-- The document in a field, if it can be read in the room that is left. -/
def unpack (r : Record) (field : String) (room : Nat := Json.deepest) : Try Value :=
  match r.layout.fields.lookup field with
  | some (.packed _ _ empty) => unpacked (r.get field) empty room
  | _ => .ok (r.get field)

/-- Puts a document into a field, if it can be written in the room that is left. -/
def pack (r : Record) (field : String) (document : Value) (room : Nat := Json.deepest)
    (half? : Char → Option Nat := Text.half?) : Try Record := do
  return r.set field (.text (← Json.write document room half?))

def stampText (v : Value) : Try Value :=
  if !v.truthy then .ok .null
  else match v with
    | .moment t => .ok (.text t.text)
    | .date d => .ok (.text d.text)
    | v => .error (.noOperation v.kind "isoformat")

def shownField (name : String) (v : Value) : Role → Try (Option (String × Value))
  | .packed _ label empty => do return some (label, ← unpacked v empty)
  | .stamp => do return some (name, ← stampText v)
  | .hidden _ => .ok none
  | _ => .ok (some (name, v))

def toValue (r : Record) : Try Value := do
  let fields ← r.layout.fields.mapM fun (name, role) => shownField name (r.get name) role
  return .record (fields.filterMap id)

def readStamp (v : Value) : Try Value :=
  if !v.truthy then .ok .null
  else match v with
    | .text s =>
      match Moment.ofIso s with
      | .ok t => .ok (.moment t)
      | .error .malformed => .error (.refused s!"Invalid isoformat string: {v.shown}")
      | .error (.calendar e) => .error (.refused e.message)
    | _ => .error (.mismatch (.other "fromisoformat: argument must be str"))

def readField (v : Value) : Role → Try Value
  | .flag _ => .ok (.bool v.truthy)
  | .choice word options =>
    if !v.truthy then .ok (.text (options.headD ""))
    else if v.text?.any options.contains then .ok v
    else .error (.refused s!"{v.shown} is not a valid {word}")
  | .stamp => readStamp v
  | _ => .ok v

def ofRow (layout : Layout) (row : Store.Row) : Try Record := do
  let values ← layout.fields.mapM fun (name, role) => do
    return (name, ← readField (row.value name) role)
  return ⟨layout, values⟩

end Record

end Huntbook

/-! ## Kinds of records -/

namespace Huntbook.Layout

def directions : Texts := ["sigma_to_spl", "spl_to_sigma", "text_to_sigma"]

def statuses : Texts := ["ok", "missing", "suggested"]

def profile : Layout := ⟨
  [("id", .plain .null), ("name", .plain (.text "")), ("description", .plain .null),
   ("index_name", .plain (.text "*")), ("sourcetype", .plain .null), ("cim_enabled", .flag false),
   ("is_default", .flag false), ("macros", .packed .null "macros" (.map [])),
   ("created_at", .stamp), ("updated_at", .stamp)]⟩

def mapping : Layout := ⟨
  [("id", .plain .null), ("profile_id", .plain (.int 0)), ("sigma_field", .plain (.text "")),
   ("target_field", .plain (.text "")), ("status", .choice "MappingStatus" statuses),
   ("category", .plain .null), ("notes", .plain .null), ("created_at", .stamp),
   ("updated_at", .stamp)]⟩

def conversion : Layout := ⟨
  [("id", .plain .null), ("name", .plain (.text "")),
   ("conversion_type", .choice "ConversionType" directions), ("profile_id", .plain .null),
   ("input_content", .plain (.text "")), ("output_sigma", .plain .null),
   ("output_spl", .plain .null), ("prerequisites", .packed .null "prerequisites" (.map [])),
   ("gap_analysis", .packed .null "gap_analysis" (.list [])),
   ("health_checks", .packed .null "health_checks" (.list [])),
   ("correlation_notes", .plain .null), ("llm_used", .flag false), ("created_at", .stamp)]⟩

def setting : Layout := ⟨
  [("id", .plain .null), ("key", .plain (.text "")), ("value", .plain (.text "")),
   ("updated_at", .stamp)]⟩

def sensor : Layout := ⟨
  [("id", .plain .null), ("name", .plain (.text "")), ("version", .plain (.text "")),
   ("schema_version", .plain (.text "")),
   ("enabled_event_ids", .packed (.text "") "enabled_event_ids" (.list [])),
   ("disabled_event_ids", .packed (.text "") "disabled_event_ids" (.list [])),
   ("rules_json", .packed (.text "") "rules" (.list [])), ("raw_xml", .hidden .null),
   ("is_active", .flag true), ("created_at", .stamp), ("updated_at", .stamp)]⟩

def audit : Layout := ⟨
  [("id", .plain .null), ("name", .plain (.text "")),
   ("categories_json", .packed (.text "") "categories" (.list [])), ("raw_content", .hidden .null),
   ("is_active", .flag true), ("created_at", .stamp), ("updated_at", .stamp)]⟩

end Huntbook.Layout

namespace Huntbook.Record

def auditedNames (r : Record) : Try (List Value) := do
  let found ← (← (← r.unpack "categories_json").iterate).mapM fun category => do
    let parts ← (← category.getOr "subcategories" (.list [])).iterate
    let names ← parts.mapM fun part => do
      if (← part.get "success").truthy || (← part.get "failure").truthy then
        return [← part.getOr "name" (.text "")]
      else return []
    return names.flatten
  return found.flatten

end Huntbook.Record

