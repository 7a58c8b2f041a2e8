import Huntbook.Value.Access
import Huntbook.Yaml.Document
import Huntbook.Folder
import Huntbook.Value.Order

/-!
# Fields of rules

What a rule talks about: the fields that its detection compares, and its log source.
-/

namespace Huntbook.Rule

def keyField (key : Value) : Try Texts := do
  let name ← key.asCut
  let field := String.ofList (name.toList.takeWhile (· != '|'))
  return if Text.startsWith field "_" then [] else [field]

def isCondition (key : Value) : Bool := (Value.text "condition").same key

mutual

def entryFields : Entries → Try Texts
  | [] => .ok []
  | (key, value) :: rest => do
    let own ← if isCondition key then pure [] else valueFields key value
    return own ++ (← entryFields rest)

def valueFields (key : Value) : Value → Try Texts
  | .map entries => entryFields entries
  | .list items => itemFields items
  | _ => keyField key

def itemFields : List Value → Try Texts
  | [] => .ok []
  | .map entries :: rest => do
    let own ← entryFields entries
    return own ++ (← itemFields rest)
  | _ :: rest => itemFields rest

end

def blockFields (block : Value × Value) : Try Texts :=
  if isCondition block.1 then .ok []
  else match block.2 with
    | .map entries => entryFields entries
    | .list items => itemFields items
    | _ => .ok []

def sortedTexts (items : Texts) : Texts := items.eraseDups.mergeSort (fun a b => a ≤ b)

def fields (rule : Value) : Try Texts := do
  let detection ← rule.getOr "detection" (.map [])
  let found ← (← detection.entries).mapM blockFields
  return sortedTexts found.flatten

def logSourceRecord (rule : Value) : Try Value := do
  let source ← rule.getOr "logsource" (.map [])
  let parts ← ["product", "service", "category", "definition"].mapM fun name =>
    return (name, ← source.get name)
  return .record parts

/-! ## Accepting rules

A detection rule is a YAML document with a title, a log source and a detection, and the detection
has a condition. -/

/-- Why a text is not taken as a rule. -/
inductive Rejection
  | empty
  | notMapping
  | missing (field : String)
  | malformed (e : Yaml.Error)
  | unreadable (f : Fault)

def Rejection.message : Rejection → String
  | .empty => "Empty YAML content"
  | .notMapping => "Invalid YAML structure: expected a mapping"
  | .missing field => "Missing required field: " ++ field
  | .malformed e => "YAML parsing error: " ++ e.problem
  | .unreadable f => "Error parsing Sigma rule: " ++ f.message

def Rejection.ofFault : Fault → Rejection
  | .yaml e => .malformed e
  | f => .unreadable f

def requiredFields : Texts := ["title", "logsource", "detection"]

def hasCondition : Value → Try Bool
  | .map entries => .ok (entries.any fun e => (Value.text "condition").same e.1)
  | .list items => .ok (items.any ((Value.text "condition").same ·))
  | .tuple items => .ok (items.any ((Value.text "condition").same ·))
  | .set items => .ok (items.any ((Value.text "condition").same ·))
  | .text s => .ok (Text.contains s "condition")
  | .bytes _ => .error (.mismatch (.other "a bytes-like object is required, not 'str'"))
  | v => .error (.mismatch (.notContainer v.kind))

def acceptValue (v : Value) : Except Rejection Value :=
  match v with
  | .map entries =>
    match requiredFields.find? fun f => (Value.find? entries (.text f)).isNone with
    | some field => .error (.missing field)
    | none =>
      match hasCondition ((Value.find? entries (.text "detection")).getD .null) with
      | .ok true => .ok v
      | .ok false => .error (.missing "detection.condition")
      | .error f => .error (.unreadable f)
  | _ => .error .notMapping

def accept (text : String) : Except Rejection Value :=
  match Yaml.readValues text with
  | .error f => .error (.ofFault f)
  | .ok [] => .error .empty
  | .ok (document :: _) => acceptValue document

def acceptAny : Value → Except Rejection Value
  | .text s => accept s
  | v => .error (.unreadable (.noOperation v.kind "read"))

open Folder

/-! ## Rule libraries

A folder of detection rules. Rules are the files whose names end in `.yml`, and after them those
whose names end in `.yaml`. -/

/-- In what order a walk through the folder meets the files is up to the file system: those of lower
    `rank` first, and those of equal rank as they are listed. -/
structure Library where
  tree : Tree
  folder : Path
  rank : Texts → Nat := fun _ => 0

/-- What rules are listed; a field that is null lets all of them pass. -/
structure Filter where
  search : Value := .null
  product : Value := .null
  service : Value := .null
  category : Value := .null
  tags : Value := .null

/-- What the list tells of a rule. -/
structure Entry where
  (path filename : String)
  (title status level product service category tags description : Value)

def Entry.toValue (e : Entry) : Value :=
  .record [("path", .text e.path), ("filename", .text e.filename), ("title", e.title),
    ("status", e.status), ("level", e.level), ("product", e.product), ("service", e.service),
    ("category", e.category), ("tags", e.tags), ("description", e.description)]

namespace Library

def isAvailable (l : Library) : Bool :=
  match l.tree.isFolder l.folder with
  | .ok b => b
  | .error _ => false

def listed (l : Library) (ending : String) : List Texts :=
  ((l.tree.below l.folder).map (·.1)).filter fun names =>
    Text.endsWith (names.getLast?.getD "") ending

/-- The files with an ending, as a walk through the folder meets them. -/
def met (l : Library) (ending : String) : List Texts :=
  (l.listed ending).mergeSort fun a b => l.rank a ≤ l.rank b

def files (l : Library) : List Texts := l.met ".yml" ++ l.met ".yaml"

def stats (l : Library) : Value :=
  .record [("available", .bool l.isAvailable), ("path", .text (l.folder.text l.tree.root)),
    ("rule_count", .int (if l.isAvailable then l.files.length else 0))]

def documents (l : Library) (names : Texts) : Try (List Value) := do
  Yaml.readValues (← l.tree.readText { l.folder with parts := l.folder.parts ++ names })

def entryOf (names : Texts) (rule : Value) : Try (Option Entry) := do
  match rule with
  | .map entries =>
    match Value.find? entries (.text "title") with
    | none => return none
    | some title =>
      let source ← rule.getOr "logsource" (.map [])
      return some
        { path := "/".intercalate names
          filename := names.getLast?.getD ""
          title
          status := ← rule.get "status"
          level := ← rule.get "level"
          product := ← source.get "product"
          service := ← source.get "service"
          category := ← source.get "category"
          tags := ← rule.getOr "tags" (.list [])
          description := ← rule.get "description" }
  | _ => return none

def matchesSearch (search : Value) (e : Entry) : Try Bool := do
  if !search.truthy then return true
  let wanted ← search.lower
  if ← e.title.holdsFold wanted then return true
  return Text.contains (Text.lower (← e.description.written)) wanted
    || Text.contains (Text.lower e.filename) wanted

def matchesTags (tags : Value) (e : Entry) : Try Bool := do
  if !tags.truthy then return true
  let own ← (← e.tags.iterate).mapM Value.lowered
  (← tags.iterate).anyM fun t => do
    let wanted ← t.lowered
    return own.any wanted.same

def passes (f : Filter) (e : Entry) : Try Bool := do
  if !(← matchesSearch f.search e) then return false
  if f.product.truthy && !e.product.same f.product then return false
  if f.service.truthy && !e.service.same f.service then return false
  if f.category.truthy && !e.category.same f.category then return false
  matchesTags f.tags e

def rule? (l : Library) (names : Texts) : Option Entry :=
  match l.documents names with
  | .ok (rule :: _) => (entryOf names rule).toOption.join
  | _ => none

def rules (l : Library) : List Entry := if l.isAvailable then l.files.filterMap l.rule? else []

def found (l : Library) (f : Filter) : List Entry :=
  l.rules.filter fun e => (passes f e).toOption.getD false

def entries (l : Library) (f : Filter) : Try (List Entry) := do
  let keyed ← (l.found f).mapM fun e => return (← e.title.lowered, e)
  return (← sortBy (fun a b => a.1.less b.1) keyed).map (·.2)

/-- The part of a list from `first` up to, not including, `last`; negative numbers count from the
    end. -/
def slice {α : Type} (items : List α) (first last : Int) : List α :=
  let place (n : Int) : Nat := if n < 0 then (n + items.length).toNat else n.toNat
  (items.take (place last)).drop (place first)

def list (l : Library) (f : Filter) (limit offset : Int) : Try (List Entry × Nat) := do
  let all ← l.entries f
  return (slice all offset (offset + limit), all.length)

def content (l : Library) (path : String) : Try Value := do
  if !l.isAvailable then return .null
  let place := l.folder.join path
  if !(← l.tree.isFile place) then return .null
  let read : Try Value := do
    let text ← l.tree.readText place
    let documents ← Yaml.readValues text
    return .record [("path", .text path), ("content", .text text),
      ("parsed", documents.head?.getD (.map []))]
  return read.toOption.getD .null

/-- The kinds of values that are offered for a filter. -/
inductive Choice
  | product | service | category | tag
  deriving DecidableEq

def usable (items : List Value) : List Value := items.takeWhile Value.hashable

def choicesOf (rule : Value) : List (Choice × Value) :=
  let parts : List (Choice × String) :=
    [(.product, "product"), (.service, "service"), (.category, "category")]
  match rule.getOr "logsource" (.map []) with
  | .ok (.map source) =>
    let found := parts.filterMap fun (kind, name) =>
      (Value.find? source (.text name)).bind fun v => if v.truthy then some (kind, v) else none
    let good := found.takeWhile fun c => c.2.hashable
    if good.length < found.length then good
    else match rule.getOr "tags" (.list []) with
      | .ok tags =>
        match tags.iterate with
        | .ok items => good ++ (usable items).map (Choice.tag, ·)
        | .error _ => good
      | .error _ => good
  | _ => []

/-- What rules can be filtered by. Only the first 500 files are looked at. -/
def offers (l : Library) : List (Choice × Value) :=
  if l.isAvailable then
    (l.files.take 500).flatMap fun names =>
      match l.documents names with
      | .ok (.map entries :: _) => choicesOf (.map entries)
      | _ => []
  else []

def offersOf (l : Library) (kind : Choice) : List Value :=
  l.offers.filterMap fun c => if c.1 == kind then some c.2 else none

def offered (l : Library) (kind : Choice) : Try (List Value) :=
  sortBy Value.less (Value.distinct (l.offersOf kind))

/-- The names that rules can be filtered by, in order; of the tags the first hundred. -/
def choices (l : Library) : Try Value := do
  let products ← l.offered .product
  let services ← l.offered .service
  let categories ← l.offered .category
  let tags ← l.offered .tag
  return .record [("products", .list products), ("services", .list services),
    ("categories", .list categories), ("tags", .list (tags.take 100))]

end Library

end Huntbook.Rule
