import Huntbook.Starter.Further
import Huntbook.Starter.Inside
import Huntbook.Starter.Intrusion
import Huntbook.Folder
import Huntbook.Value.Access

/-!
# Writing drafts

Drafts are written to folders of playbooks: a document, and a file for each query. There are two
styles of documents.
-/

namespace Huntbook.Starter

/-! ## The starter playbooks -/

open Folder

inductive Style
  | basic | further
  deriving DecidableEq

def Style.bullets (style : Style) (items : Value) : Try String := do
  let lines ← (← items.iterate).mapM fun item =>
    match style, item with
    | .further, item => .ok ("  - \"" ++ item.plain ++ "\"")
    | .basic, .text s => .ok ("  - " ++ s)
    | .basic, item => .error (.mismatch (.notAddable item.kind))
  return "\n".intercalate lines

def indented (hypothesis : Value) : Try String := do
  let s ← hypothesis.asText "strip"
  return "\n".intercalate ((Text.split (Text.trim s) '\n').map ("  " ++ ·))

def commaList (items : Value) : Try String :=
  match items.iterate with
  | .ok items => Value.joinTexts ", " items
  | .error _ => .error (.mismatch (.other "can only join an iterable"))

def opening (draft : Value) : Try String := do
  let field (name : String) : Try String := return (← draft.item name).plain
  let id ← field "id"
  let name ← field "name"
  let description ← field "description"
  let technique ← field "technique"
  let tactic ← field "tactic"
  let subtechniques := (← draft.getOr "subtechniques" (.list [])).plain
  let severity ← field "severity"
  return s!"id: {id}\nname: \"{name}\"\ndescription: \"{description}\"\n\n"
    ++ s!"mitre:\n  technique: {technique}\n  tactic: {tactic}\n"
    ++ s!"  subtechniques: {subtechniques}\n\nseverity: {severity}\n"

def queryReferences : String :=
  "queries:\n  splunk: queries/splunk.spl\n  elastic: queries/elastic.kql\n"
    ++ "  sigma: queries/sigma.yml\n"

def Style.document (style : Style) (today : Date) (draft : Value) : Try String := do
  let opening ← opening draft
  let author := match style with
    | .basic => "author: Threat Hunting Team\ncreated: 2024-01-15\nupdated: " ++ today.text ++ "\n"
    | .further => "author: \"Threat Hunting Team\"\ncreated: \"" ++ today.text
        ++ "\"\nupdated: \"" ++ today.text ++ "\"\n"
  let sources ← style.bullets (← draft.item "data_sources")
  let hypothesis ← indented (← draft.item "hunt_hypothesis")
  let steps ← style.bullets (← draft.item "investigation_steps")
  let falsePositives ← style.bullets (← draft.item "false_positives")
  let body := opening ++ author ++ "\ndata_sources:\n" ++ sources ++ "\n\nhunt_hypothesis: |\n"
    ++ hypothesis ++ "\n\n" ++ queryReferences ++ "\ninvestigation_steps:\n" ++ steps
    ++ "\n\nfalse_positives:\n" ++ falsePositives ++ "\n"
  match style with
  | .basic =>
    let technique ← (← draft.item "technique").asText "split"
    let parent := (Text.split technique '.').headD ""
    let tags ← commaList (← draft.item "tags")
    return body ++ "\nreferences:\n  - https://attack.mitre.org/techniques/" ++ parent
      ++ "/\n\ntags: [" ++ tags ++ "]\n"
  | .further =>
    let tags := (← draft.item "tags").plain
    let technique := (← draft.item "technique").plain
    return body ++ "\ntags: " ++ tags
      ++ "\n\nreferences:\n  - \"https://attack.mitre.org/techniques/" ++ technique ++ "/\"\n"

def Style.heading (style : Style) (platform : String) (draft : Value) :
    Try String := do
  if style == .further then return ""
  let field (name : String) : Try String := return (← draft.item name).plain
  match platform with
  | "splunk" =>
    return "`comment(\"=== " ++ (← field "id") ++ " - " ++ (← field "name") ++ " ===\")`\n"
      ++ "`comment(\"MITRE ATT&CK: " ++ (← field "technique") ++ " - " ++ (← field "tactic")
      ++ "\")`\n\n"
  | "elastic" =>
    return "// === " ++ (← field "id") ++ " - " ++ (← field "name") ++ " ===\n"
      ++ "// MITRE ATT&CK: " ++ (← field "technique") ++ " - " ++ (← field "tactic") ++ "\n\n"
  | _ => return ""

def Style.writeQuery (style : Style) (queries : Path) (draft : Value) (platform file : String) :
    Work Unit := do
  let place := queries.join file
  Work.change (·.writeText place "")
  let heading ← Work.ask fun _ => style.heading platform draft
  Work.fill place heading
  match ← Work.ask fun _ => draft.item platform with
  | .text query => Work.fill place (heading ++ query)
  | v => throw (.mismatch (.notWritable v.kind))

def Style.write (style : Style) (today : Date) (folder : Path) (draft : Value) : Work Unit := do
  let place ← Work.ask fun _ => do
    match ← draft.item "dir_name" with
    | .text name => return folder.join name
    | v => throw (.mismatch (.other
        s!"unsupported operand type(s) for /: 'PosixPath' and '{v.kind.name}'"))
  let queries := place.join "queries"
  Work.ensureFolder place
  Work.change (·.ensureSubfolder queries)
  let document ← Work.ask fun _ => style.document today draft
  Work.write (place.join "playbook.yaml") document
  style.writeQuery queries draft "splunk" "splunk.spl"
  style.writeQuery queries draft "elastic" "elastic.kql"
  style.writeQuery queries draft "sigma" "sigma.yml"

def Style.create (style : Style) (today : Date) (folder : Path) (draft : Value) :
    Work String := do
  style.write today folder draft
  Work.ask fun _ => do
    return "Created: " ++ (← draft.item "id").plain ++ " - " ++ (← draft.item "name").plain

def Style.report (style : Style) (today : Date) (folder : Path) (draft : Value) : Work String :=
  match style with
  | .further => style.create today folder draft
  | .basic =>
    try style.create today folder draft
    catch e => Work.ask fun _ => do
      return "Error creating " ++ (← draft.item "id").plain ++ ": " ++ e.message

structure Outcome where
  lines : Texts
  tree : Tree
  fault : Option Fault

def Style.each (style : Style) (today : Date) (folder : Path) :
    List Value → Tree → Outcome
  | [], t => ⟨[], t, none⟩
  | draft :: rest, t =>
    match (style.report today folder draft).run.run t with
    | (.error e, t) => ⟨[], t, some e⟩
    | (.ok line, t) =>
      let after := style.each today folder rest t
      { after with lines := line :: after.lines }

def rule : String := String.ofList (List.replicate 60 '=')

def Style.run (style : Style) (today : Date) (folder : Path) (drafts : List Value) (t : Tree) :
    Outcome :=
  let title := match style with
    | .basic => "Generating Threat Hunting Playbooks"
    | .further => "Generating Additional Playbooks"
  let total := match style with
    | .basic => s!"Generated {drafts.length} playbooks"
    | .further => s!"Generated {drafts.length} additional playbooks"
  let middle := style.each today folder drafts t
  let closing := if middle.fault.isSome then [] else [rule, total, rule]
  { middle with lines := [rule, title, rule] ++ middle.lines ++ closing }

def Style.drafts : Style → List Draft
  | .basic => intrusion ++ inside
  | .further => furtherSet

end Huntbook.Starter
