import Huntbook.Playbook.Edit

/-!
# Exporting queries

The queries of a playbook as files for the platforms that run them. A query is exported with a
header of comments that says where it comes from.
-/

namespace Huntbook.Playbook

open Folder

def platforms : Texts := ["splunk", "elastic", "sigma"]

def header (playbook : Value) : Try String := do
  let part (label name : String) : Try String :=
    return "# " ++ label ++ ": " ++ (← playbook.get name).plain
  let attack (label name : String) : Try String := do
    let record ← playbook.getOr "mitre" (.map [])
    return "# " ++ label ++ ": " ++ (← record.get name).plain
  return Text.join "\n"
    ["# Threat Hunting Query", ← part "Playbook" "name", ← part "ID" "id",
     ← attack "MITRE Technique" "technique", ← attack "Tactic" "tactic",
     ← part "Severity" "severity", ← part "Author" "author", "#",
     ← part "Description" "description"]

def exported (playbook platform : Value) : Try String := do
  let platform ← platform.lower
  if !platforms.contains platform then
    throw (.refused (s!"SIEM '{platform}' not supported. Supported: "
      ++ Text.join ", " platforms))
  let contents ← playbook.getOr "queries_content" (.map [])
  let query ← contents.get platform
  if !query.truthy then
    throw (.refused (s!"No {platform} query available for playbook "
      ++ (← playbook.get "id").plain))
  return (← header playbook) ++ "\n\n" ++ query.plain

def exportTo (playbook platform : Value) (file : Option Path) : Work String := do
  let text ← Work.ask fun _ => exported playbook platform
  match file with
  | some file =>
    Work.ensureFolder file.parent
    Work.write file text
  | none => pure ()
  return text

def exportEach (playbook : Value) (folder : Path) (id : String) :
    List Value → Work (List (String × Path))
  | [] => return []
  | .text platform :: rest => do
    if platforms.contains platform then
      let file := folder.join (id ++ "_" ++ platform ++ "." ++
        (queryEndings.lookup platform).getD "txt")
      let written ← tryCatch (do
          let _ ← exportTo playbook (.text platform) (some file)
          return [(platform, file)])
        fun f => if f.isRefusal then return [] else throw f
      return written ++ (← exportEach playbook folder id rest)
    else exportEach playbook folder id rest
  | _ :: rest => exportEach playbook folder id rest

def exportAll (playbook : Value) (folder : Path) : Work (List (String × Path)) := do
  Work.ensureFolder folder
  let id ← Work.ask fun _ => playbook.getOr "id" (.text "unknown")
  let contents ← Work.ask fun _ => playbook.getOr "queries_content" (.map [])
  match contents with
  | .map entries => exportEach playbook folder id.plain (entries.map (·.1))
  | v => throw (.noOperation v.kind "keys")

def hasQuery (contents : Value) (platform : String) : Try Bool :=
  match contents with
  | .map entries => .ok ((Value.find? entries (.text platform)).any Value.truthy)
  | .list items =>
    if items.any ((Value.text platform).same ·) then
      .error (.mismatch .listIndex)
    else .ok false
  | .text s =>
    if Text.contains s platform then
      .error (.mismatch .textIndex)
    else .ok false
  | v => .error (.mismatch (.notContainer v.kind))

def available (playbook : Value) : Try Texts := do
  let contents ← playbook.getOr "queries_content" (.map [])
  platforms.filterM (hasQuery contents)

end Huntbook.Playbook
