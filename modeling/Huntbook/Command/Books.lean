import Huntbook.Attack.Technique
import Huntbook.Command.Shell
import Huntbook.Json.Writer
import Huntbook.Playbook.Export

/-!
# Commands for playbooks

Playbooks searched, listed, shown and exported.
-/

namespace Huntbook.Command

open Doing

def severityColours : TextPairs :=
  [("critical", "bright_red"), ("high", "red"), ("medium", "yellow"), ("low", "green")]

def severityCell (severity : Value) : Try String := do
  if !severity.hashable then throw severity.keyFault
  let colour := (severity.text?.bind fun s => severityColours.lookup s).getD "white"
  return "[" ++ colour ++ "]" ++ (← severity.uppered).plain ++ "[/]"

def tagsCell (tags : Value) : Try String :=
  match tags with
  | .list items => Value.joinTexts ", " (items.take 3)
  | .tuple items => Value.joinTexts ", " (items.take 3)
  | .text s => .ok (", ".intercalate ((s.toList.take 3).map Char.toString))
  | .bytes data => Value.joinTexts ", " ((data.take 3).map fun b => .int b.toNat)
  | .map _ => .error (.mismatch (.other "unhashable type: 'slice'"))
  | v => .error (.mismatch (.noSubscript v.kind))

def criteriaOf (g : Given) : Playbook.Criteria :=
  { text := .ofText? g.words.head?, technique := .ofText? (g.value? "technique")
    tactic := .ofText? (g.value? "tactic"), tag := .ofText? (g.value? "tag")
    severity := .ofText? (g.value? "severity") }

def search (g : Given) : Doing Unit := told none do
  let found ← ask fun s => Playbook.search s.tree s.shelf.folder (criteriaOf g)
  if found.isEmpty then say "[yellow]No playbooks found matching criteria[/yellow]"
  else
    let rows ← orFault (found.mapM fun p => do
      let severity ← severityCell p.severity
      return [← cell p.id, ← cell p.name, ← cell p.technique, ← cell p.tactic, severity])
    table [s!"Found {found.length} Playbook(s)"]
      [["ID", "Name", "Technique", "Tactic", "Severity"]] rows

def list (_ : Given) : Doing Unit := told none do
  let found ← ask fun s => Playbook.summaries s.tree s.shelf.folder
  if found.isEmpty then say "[yellow]No playbooks found[/yellow]"
  else
    let rows ← orFault (found.mapM fun p => do
      let severity ← severityCell p.severity
      let tags ← tagsCell p.tags
      return [← cell p.id, ← cell p.name, ← cell p.technique, severity, tags])
    table [s!"All Playbooks ({found.length})"] [["ID", "Name", "Technique", "Severity", "Tags"]]
      rows

def joined (v : Value) : Try String := do
  match v.iterate with
  | .ok items => Value.joinTexts ", " items
  | .error _ => throw (.mismatch (.other "can only join an iterable"))

def facts (playbook technique : Value) : Try (List Texts) := do
  let known ← Attack.summaryOf technique
  let severity ← cell (← (← playbook.getOr "severity" (.text "N/A")).uppered)
  let author ← cell (← playbook.getOr "author" (.text "N/A"))
  let created ← cell (← playbook.getOr "created" (.text "N/A"))
  let updated ← playbook.get "updated"
  let updatedRow ← if updated.truthy then do pure [["Updated", ← cell updated]] else pure []
  let tags ← playbook.get "tags"
  let tagsRow ← if tags.truthy then do pure [["Tags", ← joined tags]] else pure []
  return [["MITRE Technique", known], ["Severity", severity], ["Author", author],
    ["Created", created]] ++ updatedRow ++ tagsRow

def itemized (playbook : Value) (name heading : String) (item : Nat → Value → String) :
    Doing Unit := do
  let v ← orFault (playbook.get name)
  if v.truthy then
    say ("\n" ++ heading)
    for (x, i) in (← orFault v.iterate).zipIdx 1 do
      say (item i x)

def queries (playbook : Value) : Doing Unit := do
  let contents ← orFault (playbook.getOr "queries_content" (.map []))
  if contents.truthy then
    say "\n[bold]Detection Queries[/bold]"
    for (platform, query) in ← orFault contents.entries do
      say ("\n[cyan]" ++ (← orFault platform.uppered).plain ++ ":[/cyan]")
      listing query

def traces (playbook : Value) : Doing Unit := do
  let found ← orFault (playbook.get "iocs")
  if found.truthy then
    say "\n[bold red]Indicators of Compromise[/bold red]"
    let rows ← orFault do
      (← found.iterate).mapM fun trace => do
        let kind ← trace.getOr "type" (.text "N/A")
        let value ← trace.getOr "value" (.text "N/A")
        let context ← trace.getOr "context" (.text "")
        return [← cell kind, ← cell value, ← cell context]
    table [] [["Type", "Value", "Context"]] rows

def showParts (id : String) (playbook : Value) : Doing Unit := do
  let attack ← orFault (playbook.getOr "mitre" (.map []))
  let technique ← orFault (attack.getOr "technique" (.text "N/A"))
  let name ← orFault (playbook.get "name")
  let description ← orFault (playbook.get "description")
  panel ("[bold]" ++ id ++ "[/bold]") (panelLines (.text
    ("[bold cyan]" ++ name.plain ++ "[/bold cyan]\n[dim]" ++ description.plain ++ "[/dim]")))
  say "\n[bold]Metadata[/bold]"
  table [] [] (← orFault (facts playbook technique))
  let hypothesis ← orFault (playbook.get "hunt_hypothesis")
  if hypothesis.truthy then
    say "\n[bold]Hunt Hypothesis[/bold]"
    put (← orFault (panelLines hypothesis))
  itemized playbook "data_sources" "[bold]Data Sources[/bold]" fun _ x => "  • " ++ x.plain
  queries playbook
  itemized playbook "investigation_steps" "[bold]Investigation Steps[/bold]" fun i x =>
    s!"  {i}. " ++ x.plain
  itemized playbook "false_positives" "[bold yellow]False Positives[/bold yellow]" fun _ x =>
    "  ⚠ " ++ x.plain
  traces playbook
  itemized playbook "references" "[bold]References[/bold]" fun _ x => "  • " ++ x.plain

def showJson (playbook : Value) : Doing Unit := do
  let text ← orFault do
    let v ← (Json.read (← Json.write playbook)).mapError Fault.ofJson
    Json.writeReadable v
  put (Text.split text '\n')

def absent (id : String) : String := s!"Playbook {id} not found"

def display (g : Given) : Doing Unit :=
  let id := g.words.headD ""
  told (some (absent id)) do
    let p ← playbook (.text id)
    if g.value? "format" == some "json" then showJson p else showParts id p

def path? (g : Given) (name : String) : Option Folder.Path :=
  ((g.value? name).filter (!·.isEmpty)).map .ofText

def exportOne (g : Given) : Doing Unit :=
  let id := g.words.headD ""
  told (some (absent id)) do
    let p ← playbook (.text id)
    let platform := (g.value? "siem").getD ""
    let file := path? g "output"
    let query ← files (Playbook.exportTo p (.text platform) file)
    match file with
    | some file => say ("[green]✓[/green] Query exported to: " ++ file.text (← get).tree.root)
    | none =>
      say ("\n[bold cyan]" ++ Text.upper platform ++ " Query:[/bold cyan]\n")
      listing (.text query)

def exportBook (folder : Folder.Path) (platform : Option String) (p : Value) : Doing Nat := do
  let place ← match ← orFault (p.get "id") with
    | .text id => pure (folder.join id)
    | v => throw (.fault (.mismatch (.other
        s!"unsupported operand type(s) for /: 'PosixPath' and '{v.kind.name}'")))
  match platform with
  | none => return (← files (Playbook.exportAll p place)).length
  | some platform =>
    let ending := (Playbook.queryEndings.lookup platform).getD "txt"
    let file := place.join (platform ++ "." ++ ending)
    tryCatch (do
      let _ ← files (Playbook.exportTo p (.text platform) (some file))
      return 1)
      fun
        | .fault f => if f.isRefusal then return 0 else throw (.fault f)
        | s => throw s

def exportMany (g : Given) : Doing Unit := told none do
  let folder := Folder.Path.ofText ((g.value? "output").getD "./export")
  files (Folder.Work.ensureFolder folder)
  let ids ← match g.words.head?.filter (!·.isEmpty) with
    | some id => pure [Value.text id]
    | none => do pure ((← ask fun s => Playbook.summaries s.tree s.shelf.folder).map (·.id))
  let books ← ids.mapM playbook
  let counts ← books.mapM (exportBook folder ((g.value? "siem").filter (!·.isEmpty)))
  let total := counts.foldl (· + ·) 0
  say (s!"[green]✓[/green] Exported {total} queries to: " ++ folder.text (← get).tree.root)

end Huntbook.Command
