import Huntbook.Playbook.Shelf
import Huntbook.Text.Finder
import Huntbook.Yaml.Writer

/-!
# Editing playbooks

Creating, changing and deleting playbooks. The folder of a playbook is named after its technique and
tactic.
-/

namespace Huntbook.Playbook

open Folder

def queryEndings : TextPairs :=
  [("splunk", "spl"), ("elastic", "kql"), ("sigma", "yml")]

def queryFile (platform : String) : String :=
  let name := Text.lower platform
  name ++ "." ++ (queryEndings.lookup name).getD "txt"

def techniquePhrase : Text.Phrase String := fun _ cs =>
  match cs with
  | 'T' :: rest => (Text.run? Text.isDecimal rest).map fun (ds, rest) =>
      (String.ofList ('T' :: ds), rest)
  | _ => none

def techniqueFor (id stated : Value) : Try Value :=
  if stated.truthy then .ok stated
  else match id with
    | .text s =>
      match Text.first? techniquePhrase s with
      | some technique => .ok (.text technique)
      | none => .error (.refused "Unable to determine MITRE technique")
    | v => .error (.mismatch (.notSearchable v.kind))

def folderName (playbook : Value) : Try String := do
  let id ← playbook.get "id"
  if !id.truthy then throw (.refused "Playbook ID is required")
  let attack ← playbook.getOr "mitre" (.map [])
  let technique ← techniqueFor id (← attack.getOr "technique" (.text ""))
  let tactic ← attack.getOr "tactic" (.text "unknown")
  return Text.replace (Text.lower ((← technique.written) ++ "-" ++ (← tactic.written))) " " "-"

/-- Writes the text of a query to its file, and gives the reference to it. A file is there as soon
    as it is opened, also if its content turns out to be no text. -/
def writeQuery (queries : Path) (platform content : Value) : Work String := do
  let file := queryFile (← Work.ask fun _ => platform.asText "lower")
  Work.change (·.writeText (queries.join file) "")
  match content with
  | .text s => Work.fill (queries.join file) s
  | v => throw (.mismatch (.notWritable v.kind))
  return "queries/" ++ file

/-- The file is emptied before the document is drawn up, so nothing is left in it if that fails. -/
def writeDocument (p : Path) (n : Yaml.Node) : Work Unit :=
  match Yaml.dump .full n with
  | .ok text => Work.change (·.writeText p text)
  | .error e => do
    Work.change (·.writeText p "")
    throw e

def prepare (folder : Path) : Work Unit := Work.ensureFolder folder

def vacantPlace (folder : Path) (playbook : Value) : Work Path := do
  let name ← Work.ask fun _ => folderName playbook
  let place := folder.join name
  if ← Work.ask (·.exists? place) then
    throw (.refused ("Playbook directory already exists: " ++ name))
  return place

def fillPlace (place : Path) (playbook : Value) : Work Unit := do
  let queries := place.join "queries"
  Work.change (·.ensureSubfolder queries)
  let entries ← Work.ask fun _ => playbook.entries
  let contents := (Value.find? entries (.text "queries_content")).getD (.map [])
  let entries := Value.remove (.text "queries_content") entries
  let entries ←
    if contents.truthy then do
      let contents ← Work.ask fun _ => contents.entries
      let references ← contents.mapM fun q =>
        return (q.1, Value.text (← writeQuery queries q.1 q.2))
      pure (Value.putField "queries" (.map references) entries)
    else pure entries
  writeDocument (place.join documentName) (Yaml.Node.ofValue (.map entries))

def create (folder : Path) (playbook : Value) : Work Path := do
  let place ← vacantPlace folder playbook
  Work.ensureFolder place
  fillPlace place playbook
  return place

def place (folder : Path) (id : Value) : Work Path := do
  match ← Work.ask (find? · folder id) with
  | some name => return folder.join name
  | none => throw (.noPlaybook id.plain)

def putEntry (name : String) (node : Yaml.Node) : Yaml.Pairs → Yaml.Pairs
  | [] => [(Yaml.Node.ofValue (.text name), node)]
  | (k, n) :: rest => if isNamed k then (k, node) :: rest else (k, n) :: putEntry name node rest
where
  isNamed : Yaml.Node → Bool
    | .scalar _ .text s => s == name
    | _ => false

def entryNode? (name : String) (entries : Yaml.Pairs) : Option Yaml.Node :=
  (entries.find? fun e => putEntry.isNamed name e.1).map (·.2)

mutual

def relink (label : Nat) (new : Yaml.Node) : Yaml.Node → Yaml.Node
  | .scalar l t s => if l == some label then new else .scalar l t s
  | .seq l t items => if l == some label then new else .seq l t (relinkAll label new items)
  | .map l t entries => if l == some label then new else .map l t (relinkEntries label new entries)
  | .link l => .link l

def relinkAll (label : Nat) (new : Yaml.Node) : List Yaml.Node → List Yaml.Node
  | [] => []
  | n :: ns => relink label new n :: relinkAll label new ns

def relinkEntries (label : Nat) (new : Yaml.Node) : Yaml.Pairs → Yaml.Pairs
  | [] => []
  | (k, v) :: rest => (k, relink label new v) :: relinkEntries label new rest

end

/-- Adds the reference of a query to the entries of a document. A list of references that is
    used in several places changes in all of them; a link leads to the document itself. -/
def addReference (platform : Value) (reference : String) (entries : Yaml.Pairs) : Try Yaml.Pairs :=
  match entryNode? "queries" entries with
  | some (.map label .map old) => do
    let key ← platform.asText "lower"
    let new := Yaml.Node.map label .map (putEntry key (Yaml.Node.ofValue (.text reference)) old)
    let entries := putEntry "queries" new entries
    return match label with
      | some l => relinkEntries l new entries
      | none => entries
  | some (.link _) => do
    return putEntry (← platform.asText "lower") (Yaml.Node.ofValue (.text reference)) entries
  | some node => do
    throw (.mismatch (.noAssignment (← node.value).kind))
  | none => .ok entries

def writeQueries (queries : Path) : Entries → Yaml.Pairs → Work Yaml.Pairs
  | [], entries => return entries
  | (platform, content) :: rest, entries => do
    let reference ← writeQuery queries platform content
    let entries ← Work.ask fun _ => addReference platform reference entries
    writeQueries queries rest entries

/-- The entries of a document, with its label. -/
def entriesOf (text : String) : Try (Option Nat × Yaml.Pairs) := do
  match ← ((← Yaml.readNode text).getD default).redrawn with
  | .map label _ entries => return (label, entries)
  | _ => return (none, [])

def addQueries (place : Path) (contents : Value) (entries : Yaml.Pairs) : Work Yaml.Pairs := do
  let queries := place.join "queries"
  Work.change (·.ensureSubfolder queries)
  let entries := if (entryNode? "queries" entries).isSome then entries
    else putEntry "queries" (.map none .map []) entries
  let contents ← Work.ask fun _ => contents.entries
  writeQueries queries contents entries

/-- The entries of a document with the changes, and with the time they were made at. -/
def mergeChanges (now : Moment) (changes : Entries) (entries : Yaml.Pairs) : Yaml.Pairs :=
  putEntry "updated" (Yaml.Node.ofValue (.text now.text)) <|
    (Value.remove (.text "queries_content") changes).foldl (fun entries c =>
      match c with
      | (.text name, v) => if v.isNull then entries else putEntry name (Yaml.Node.ofValue v) entries
      | _ => entries) entries

def revise (now : Moment) (changes : Value) (place : Path) : Work Unit := do
  let document := place.join documentName
  let text ← Work.ask (·.readText document)
  let old ← Work.ask fun _ => entriesOf text
  let changes ← Work.ask fun _ =>
    match changes with
    | .map changes => .ok changes
    | v => .error (.noOperation v.kind "pop")
  let contents := (Value.find? changes (.text "queries_content")).getD .null
  let entries ← if contents.truthy then addQueries place contents old.2 else pure old.2
  writeDocument document (.map old.1 .map (mergeChanges now changes entries))

def update (folder : Path) (now : Moment) (id changes : Value) : Work Unit := do
  revise now changes (← place folder id)

def delete (folder : Path) (id : Value) : Work Unit := do
  let place ← place folder id
  Work.change (·.remove place)

end Huntbook.Playbook
