import Huntbook.Folder
import Huntbook.Schema
import Huntbook.Value.Access
import Huntbook.Yaml.Document

/-!
# Shelves

Playbooks are kept in a folder, each in a folder of its own, as a YAML document with the files of
its queries.
-/

namespace Huntbook.Playbook

open Folder

def documentName : String := "playbook.yaml"

def readDocument (t : Tree) (p : Path) : Try Value := do
  Yaml.readValue (← t.readText p)

def hasDocument (t : Tree) (folder : Path) (name : String) : Try Bool := do
  if ← t.isFolder (folder.join name) then t.exists? ((folder.join name).join documentName)
  else return false

def candidates (t : Tree) (folder : Path) : Try Texts := do
  (← t.listing folder).filterM (hasDocument t folder)

def hasId (t : Tree) (folder : Path) (id : Value) (name : String) : Bool :=
  match (do (← readDocument t ((folder.join name).join documentName)).get "id") with
  | .ok v => v.same id
  | .error _ => false

def find? (t : Tree) (folder : Path) (id : Value) : Try (Option String) := do
  return (← candidates t folder).find? (hasId t folder id)

/-- Playbooks that have been loaded, and where from. -/
structure Shelf where
  folder : Path
  schema : Option Value
  loaded : Entries

namespace Shelf

def ofFolder (t : Tree) (folder : Path) : Try Shelf := do
  let place := folder.parent.join "schema.json"
  if ← t.exists? place then
    let schema ← readDocument t place
    return ⟨folder, if schema.truthy then some schema else none, []⟩
  else return ⟨folder, none, []⟩

def queryText (t : Tree) (place : Path) (file : Value) : Try String := do
  match file with
  | .text name =>
    if ← t.exists? (place.join name) then t.readText (place.join name)
    else return "# Query file not found: " ++ name
  | v => throw (.mismatch (.other
      s!"unsupported operand type(s) for /: 'PosixPath' and '{v.kind.name}'"))

def withQueries (t : Tree) (place : Path) (playbook : Value) : Try Value := do
  let entries ← playbook.entries
  match Value.find? entries (.text "queries") with
  | none => return playbook
  | some queries =>
    let texts ← (← queries.entries).mapM fun q => return (q.1, .text (← queryText t place q.2))
    return .map (Value.putField "queries_content" (.map texts) entries)

def read (s : Shelf) (t : Tree) (name : String) : Try Value := do
  let place := s.folder.join name
  let playbook ← Yaml.readDated (← t.readText (place.join documentName))
  if let some schema := s.schema then
    if let some complaint ← Schema.complaint? schema playbook then
      throw (.refused ("Playbook validation failed: " ++ complaint))
  withQueries t place playbook

def load (s : Shelf) (t : Tree) (id : Value) : Try (Value × Shelf) := do
  if !id.hashable then throw (Value.keyFault id)
  match Value.find? s.loaded id with
  | some playbook => return (playbook, s)
  | none =>
    match ← find? t s.folder id with
    | none => throw (.noPlaybook id.plain)
    | some name =>
      let playbook ← s.read t name
      return (playbook, { s with loaded := Value.put id playbook s.loaded })

def loadedIds (s : Shelf) : List Value := s.loaded.map (·.1)

end Shelf

/-! ## Summaries

What is listed of a playbook, and the search for playbooks by what is listed. -/

/-- What the list tells of a playbook. -/
structure Summary where
  (id name description technique tactic severity tags : Value)

def Summary.toValue (s : Summary) : Value :=
  .record [("id", s.id), ("name", s.name), ("description", s.description),
    ("technique", s.technique), ("tactic", s.tactic), ("severity", s.severity), ("tags", s.tags)]

def summaryOf (playbook : Value) : Try Summary := do
  let id ← playbook.get "id"
  let attack ← playbook.getOr "mitre" (.map [])
  return {
    id
    name := ← playbook.get "name"
    description := ← playbook.get "description"
    technique := ← attack.get "technique"
    tactic := ← attack.get "tactic"
    severity := ← playbook.get "severity"
    tags := ← playbook.getOr "tags" (.list []) }

def summary? (t : Tree) (folder : Path) (name : String) : Option Summary :=
  (do summaryOf (← Yaml.readDated (← t.readText ((folder.join name).join documentName)))).toOption

def summaries (t : Tree) (folder : Path) : Try (List Summary) := do
  if ← t.exists? folder then
    sortBy (fun a b => a.id.less b.id) ((← candidates t folder).filterMap (summary? t folder))
  else return []

/-- What playbooks are sought; null stands for any. -/
structure Criteria where
  text : Value := .null
  technique : Value := .null
  tactic : Value := .null
  tag : Value := .null
  severity : Value := .null

def restrict (wanted : Value) (test : Try (Summary → Try Bool))
    (found : List Summary) : Try (List Summary) := do
  if wanted.truthy then found.filterM (← test) else return found

def mentions (text : Value) : Try (Summary → Try Bool) := do
  let wanted ← text.lower
  return fun s => do
    if ← s.name.holdsFold wanted then return true
    s.description.holdsFold wanted

def isFold (part : Summary → Value) (text : Value) :
    Try (Summary → Try Bool) := do
  let wanted ← text.lower
  return fun s => return (← (part s).lowered).same (.text wanted)

def hasTag (tag : Value) : Try (Summary → Try Bool) := do
  let wanted ← tag.lower
  return fun s => do (← s.tags.iterate).anyM fun t => return (← t.lowered).same (.text wanted)

namespace Criteria

def select (c : Criteria) (found : List Summary) : Try (List Summary) := do
  let found ← restrict c.text (mentions c.text) found
  let found ← restrict c.technique (.ok fun s => .ok (s.technique.same c.technique)) found
  let found ← restrict c.tactic (isFold Summary.tactic c.tactic) found
  let found ← restrict c.tag (hasTag c.tag) found
  restrict c.severity (isFold Summary.severity c.severity) found

end Criteria

def search (t : Tree) (folder : Path) (c : Criteria) : Try (List Summary) := do
  c.select (← summaries t folder)

def forTechnique (t : Tree) (folder : Path) (technique : Value) :
    Try (List Summary) := do
  return (← summaries t folder).filter fun s => s.technique.same technique

/-! ## Coverage of techniques -/

def techniqueCount : Nat := 193

structure TacticCoverage where
  tactic : Value
  techniques : List Value
  playbooks : Nat

/-- The techniques that playbooks are there for. -/
structure Coverage where
  tactics : List TacticCoverage
  techniques : List Value

def addOnce (v : Value) (items : List Value) : List Value :=
  if items.any v.same then items else items ++ [v]

namespace Coverage

def countIn (tactic technique : Value) : List TacticCoverage → List TacticCoverage
  | [] => [⟨tactic, if technique.truthy then [technique] else [], 1⟩]
  | t :: rest =>
    if tactic.same t.tactic then
      { t with techniques := if technique.truthy then addOnce technique t.techniques
                 else t.techniques
               playbooks := t.playbooks + 1 } :: rest
    else t :: countIn tactic technique rest

def add (c : Coverage) (s : Summary) : Try Coverage := do
  if !s.tactic.hashable then throw s.tactic.keyFault
  if s.technique.truthy && !s.technique.hashable then throw s.technique.keyFault
  return {
    tactics := countIn s.tactic s.technique c.tactics
    techniques := if s.technique.truthy then addOnce s.technique c.techniques else c.techniques }

def percent (c : Coverage) : Float :=
  let tenths := (2 * 1000 * c.techniques.length + techniqueCount) / (2 * techniqueCount)
  .ofScientific tenths true 1

def thin (c : Coverage) : List Value :=
  (c.tactics.filter (·.techniques.length < 3)).map (·.tactic)

def uncovered (c : Coverage) : Int := techniqueCount - (c.techniques.length : Int)

def tacticsValue (c : Coverage) : Value :=
  .map (c.tactics.map fun t => (t.tactic, .record
    [("techniques", .list (t.techniques.mergeSort fun a b => a.plain ≤ b.plain)),
     ("playbooks", .int t.playbooks)]))

def question (c : Coverage) : String :=
  "Analyze this MITRE ATT&CK coverage data and provide recommendations:\n\n"
    ++ s!"Covered Techniques: {c.techniques.length}\n"
    ++ s!"Total Techniques in Enterprise: {techniqueCount}\n"
    ++ s!"Coverage: {Decimal.text c.percent}%\n\n"
    ++ "Tactics Coverage:\n"
    ++ "\n".intercalate (c.tactics.map fun t =>
      s!"- {t.tactic.plain}: {t.techniques.length} techniques, {t.playbooks} playbooks")
    ++ "\n\nPlease suggest:\n"
    ++ "1. Top 3 critical techniques that should be covered based on common attack patterns\n"
    ++ "2. Which tactics need more playbooks\n"
    ++ "3. Priority recommendations for improving coverage\n\n"
    ++ "Keep response concise and actionable."

end Coverage

def coverage (found : List Summary) : Try Coverage := found.foldlM Coverage.add ⟨[], []⟩

def counts (part : Summary → Value) (found : List Summary) : Entries :=
  found.foldl (fun table s =>
    let n := match Value.find? table (part s) with
      | some (.int n) => n
      | _ => 0
    Value.put (part s) (.int (n + 1)) table) []

def tallies (found : List Summary) :
    Try (Entries × Entries) := do
  found.forM fun s => do
    if !s.tactic.hashable then throw s.tactic.keyFault
    if !s.severity.hashable then throw s.severity.keyFault
  return (counts Summary.tactic found, counts Summary.severity found)

end Huntbook.Playbook
