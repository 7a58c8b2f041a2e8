import Huntbook.Text.Pieces
import Huntbook.Value.Basic

/-!
# Drafts of playbooks

A playbook before it is written to its folder: what it is about, and a query for each of three
platforms.
-/

namespace Huntbook.Starter

/-- A rule that looks for something in the events of a source. Its level is that of the playbook, and
    its tags are the tactic and the technique, unless it has its own. -/
structure Detector where
  (title id : String)
  source : Texts
  search : String
  level? : Option String
  tags : Texts

def detector (title id : String) (source : Texts) (search : String)
    (level? : Option String := none) (tags : Texts := []) : Detector :=
  ⟨title, id, source, search, level?, tags⟩

def processEvents : Texts := ["category: process_creation", "product: windows"]

def windowsProcesses : Texts := processEvents.reverse

def securityEvents : Texts := ["product: windows", "service: security"]

/-- A playbook before it is written. Its description is what it detects; the queries of two platforms
    are blocks, with remarks in the first one. -/
structure Draft where
  (folder tactic : String)
  technique : String := (Text.split folder '-').headD ""
  id : String := "PB-" ++ if technique.toList.contains '.' then Text.replace technique "." "-"
    else technique ++ "-001"
  (name description severity : String)
  subtechniques : Texts := []
  sources : Texts
  hypothesis : String
  (steps falsePositives topics : Texts)
  tags : Texts := tactic :: topics
  (splunk elastic : String)
  sigma : List Detector

/-- What queries often say, by the names that drafts have for it. -/
def phrases : TextPairs :=
  [("~events", "Windows Security Events"), ("~or ", "%\" OR ~like \"%"), ("~users", "~table User,"),
   ("~run", "~sysmon 1"), ("~by ", "~count by "), ("~rex ", "| rex field="), ("~ip", "IpAddress"),
   ("~score", "obfuscation_score"), ("~target", "TargetUserName"), ("~image", "Image|endswith"),
   ("~pwsh", "(powershell.exe OR pwsh.exe)"), ("~code:", "event.code:"), ("~type=", "sourcetype="),
   ("~url ", "%\" OR url LIKE \"%"), ("~bin ", "| bin _time span="), ("~show ", "| table _time, "),
   ("~has", "|contains"), ("~id=", "EventCode="),
   ("~table", "| table _time, ComputerName,"), ("~sysmon ", "index=sysmon EventCode="),
   ("~security ", "index=windows sourcetype=windows:security EventCode="),
   ("~winlog:", "index=windows sourcetype=WinEventLog:"),
   ("~proxy", "index=proxy sourcetype=bluecoat OR sourcetype=zscaler"),
   ("~process:", "event.code:1 AND process.name:"), ("~line:", "process.command_line:"),
   ("~shells", r#"(Image="*\powershell.exe" OR Image="*\pwsh.exe")"#),
   ("~like ", "CommandLine LIKE "), ("~data.", "winlog.event_data."), ("~cmd", "CommandLine"),
   ("~file", "TargetFilename"), ("~count", "| stats count"), ("\n ?", "\n | where")]

def spelled (s : String) : String := phrases.foldl (fun s p => Text.replace s p.1 p.2) s

/-- A text of several lines, which start after a line break and have a margin of one character. A
    line that ends in a backslash goes on in the next one. -/
def block (s : String) : String :=
  let text := Text.replace (Text.replace (spelled s) "\\\n " "") "\n " "\n"
  String.ofList (text.toList.drop 1)

/-- A draft by its brief, a block of three parts. The first part has lines for the folder, the tactic
    and the severity, the name, the description, the sources, what may be mistaken for an attack, the
    topics and the subtechniques; the second one is the hypothesis, and the third one has the steps. -/
def draft (brief splunk elastic : String) (sigma : List Detector) : Draft :=
  let parts := (Text.split (Text.replace (block brief) "\n~" "~") '~').map Text.lines
  let facts := parts.getD 0 []
  let fact (n : Nat) := facts.getD n ""
  let items (line : String) := Text.split (Text.replace line "; " ";") ';'
  let heading := items (fact 0)
  { folder := heading.getD 0 ""
    tactic := heading.getD 1 ""
    severity := heading.getD 2 ""
    name := fact 1 ++ " Detection"
    description := fact 2
    sources := items (fact 3)
    falsePositives := items (fact 4)
    topics := items (fact 5)
    subtechniques := (facts.drop 6).flatMap items
    hypothesis := Text.join "\n" (parts.getD 1 [])
    steps := parts.getD 2 []
    splunk, elastic, sigma }

def remark (line : String) : String :=
  match line.toList with
  | '#' :: ' ' :: text => "`comment(\"" ++ String.ofList text ++ "\")`"
  | _ => line

/-- The lines of a field and the texts after it, of which each one stands in a line of its own. -/
def listed (line : String) : Texts :=
  match Text.split line ';' with
  | field :: items@(_ :: _) => (field ++ ":") :: items.map fun item =>
    "   - '" ++ String.ofList (item.toList.drop 1) ++ "'"
  | _ => [line]

/-- What a rule looks for: blocks with one blank for each level, of which the first one may go without
    its name. A rule that does not say when it applies needs all blocks, but no filter. -/
def Detector.blocks (r : Detector) : Texts :=
  let given := Text.lines (spelled r.search)
  let lines := if Text.startsWith (given.getD 1 "") "  " then "" :: " selection:" :: given.drop 1
    else given
  let names := lines.filterMap fun line => match line.toList with
    | ' ' :: c :: cs => if c.isLower then some (String.ofList (c :: cs.dropLast)) else none
    | _ => none
  if Text.contains r.search "condition" then lines
  else lines ++ [Text.replace (" condition: " ++ Text.join " and " names) "filter" "not filter"]

/-- The text of a rule, with four blanks for each level. -/
def Detector.text (r : Detector) (d : Draft) : String :=
  let deeper (line : String) :=
    let blanks := line.toList.takeWhile (· == ' ')
    String.ofList (blanks ++ blanks ++ blanks) ++ line
  let tags := if r.tags.isEmpty then [d.tactic, d.technique].map fun s =>
    "attack." ++ Text.replace s.toLower "-" "_" else r.tags
  "title: " ++ r.title ++ "\nid: " ++ r.id ++ "\nstatus: production\nlevel: " ++
    r.level?.getD d.severity ++ Text.join "\n    " ("\nlogsource:" :: r.source) ++ "\ndetection:" ++
    Text.join "\n" ((r.blocks.flatMap listed).map deeper) ++
    Text.join "\n    - " ("\ntags:" :: tags)

def Draft.toValue (d : Draft) : Value :=
  .record [("id", .text d.id), ("technique", .text d.technique), ("tactic", .text d.tactic),
    ("dir_name", .text d.folder), ("name", .text d.name),
    ("description", .text ("Detect " ++ d.description)), ("severity", .text d.severity),
    ("subtechniques", .ofTexts d.subtechniques), ("data_sources", .ofTexts d.sources),
    ("hunt_hypothesis", .text d.hypothesis), ("investigation_steps", .ofTexts d.steps),
    ("false_positives", .ofTexts d.falsePositives), ("tags", .ofTexts d.tags),
    ("splunk", .text (Text.join "\n" ((Text.lines (block d.splunk)).map remark))),
    ("elastic", .text (block d.elastic)),
    ("sigma", .text (Text.join "\n---\n" (d.sigma.map (·.text d))))]

end Huntbook.Starter
