import Huntbook.Text.Pattern
import Huntbook.Form.Basic

/-!
# Forms of playbooks

A new playbook, and the fields of a playbook that are to be changed.
-/

namespace Huntbook.Form

open Text

/-! ## Guards

Tests for texts that come from outside: they must not look like an attempt to inject a script, a
database statement or an instruction, and identifiers are made of few characters. -/

def phrase (first second : String) : Pattern :=
  Pattern.all [Pattern.text first, Pattern.blanks, Pattern.text second]

def scriptLures : List Pattern :=
  [Pattern.text "<script", Pattern.text "javascript:", Pattern.text "onerror=",
   Pattern.text "onclick=", phrase "union" "select", phrase "drop" "table"]

def statementLures : List Pattern :=
  [phrase "insert" "into", phrase "delete" "from",
   Pattern.all [Pattern.text "update", Pattern.blanks]]

def selectLure : Pattern :=
  Pattern.all [Pattern.text "select", Pattern.blanks,
    Pattern.repeated (.char .any) 0 none, Pattern.text "from"]

def overruleLures : List Pattern :=
  [phrase "ignore" "instructions", Pattern.text "bypass", Pattern.text "override"]

def secretLures : List Pattern := [phrase "system" "prompt", Pattern.text "jailbreak"]

def refuseLures (name : String) (lures : List Pattern) (s : String) : Except String Unit :=
  if lures.any (·.searchFold s) then
    .error (name ++ " contains potentially malicious patterns")
  else .ok ()

def isIdentifierChar (c : Char) : Bool := c.isAlphanum || c == '_' || c == '-' || c == '.'

def isIdentifier (s : String) : Bool :=
  let cs := match s.toList.reverse with
    | '\n' :: rest => rest
    | cs => cs
  !cs.isEmpty && cs.all isIdentifierChar

def onlyIdentifier (problem : String) (s : String) : Except String Unit :=
  if isIdentifier s then .ok () else .error problem

def twoWords (name : String) (s : String) : Except String Unit :=
  if (words s).length < 2 then .error (name ++ " must contain at least 2 words") else .ok ()

def isPlainChar (c : Char) : Bool :=
  c.isAlphanum || isBlank c || c == '?' || c == '!' || c == '.' || c == ',' || c == '-'

def isMostlyPlain (s : String) : Bool :=
  (s.toList.filter fun c => !isPlainChar c).length * 20 ≤ s.length * 3

def severities : Texts := ["critical", "high", "medium", "low"]

def checkSeverity (s : String) : Except String String :=
  if severities.contains (lower s) then .ok (lower s)
  else .error ("Severity must be one of: " ++ ", ".intercalate severities)

def playbookIdPattern : Pattern :=
  Pattern.all [.start, Pattern.text "PB-",
    .repeated (.char (.either (.range 'A' 'Z') (.range '0' '9'))) 1 none,
    Pattern.text "-", .repeated (.char .digit) 1 none, .finish]

def checkPlaybookId (s : String) : Except String String :=
  if playbookIdPattern.search s then .ok s
  else .error "ID must follow format: PB-TXXXX-NNN"

def Kind.texts : Kind := .list .anyText

def createPlaybook : Form where
  name := "CreatePlaybookRequest"
  fields :=
    [required "id" (.tested (.text (some 1) (some 50)) checkPlaybookId),
     required "name" (.text (some 1) (some 200)),
     required "description" (.text (some 1) (some 1000)),
     required "mitre" (.dict .any),
     required "severity" (.tested .anyText checkSeverity),
     required "author" (.text (some 1) (some 100)),
     withDefault "data_sources" .texts (.list []),
     required "hunt_hypothesis" (.text (some 1) none),
     withDefault "investigation_steps" .texts (.list []),
     withDefault "false_positives" .texts (.list []),
     withDefault "references" .texts (.list []),
     withDefault "tags" .texts (.list []),
     optional "queries_content" (.dict .anyText),
     withDefault "iocs" (.optional (.list (.dict .anyText))) (.list []),
     optional "response" (.dict .texts)]

def updatePlaybook : Form where
  name := "UpdatePlaybookRequest"
  fields :=
    [optional "name" (.text (some 1) (some 200)),
     optional "description" (.text (some 1) (some 1000)),
     optional "mitre" (.dict .any),
     optional "severity" (.tested .anyText checkSeverity),
     optional "author" (.text (some 1) (some 100)),
     optional "data_sources" .texts,
     optional "hunt_hypothesis",
     optional "investigation_steps" .texts,
     optional "false_positives" .texts,
     optional "references" .texts,
     optional "tags" .texts,
     optional "queries_content" (.dict .anyText),
     optional "iocs" (.list (.dict .anyText)),
     optional "response" (.dict .texts)]

/-! ## Forms of the assistant -/

def identifierTest (name : String) (lures : List Text.Pattern) (problem : String) (s : String) :
    Except String String := do
  refuseLures name lures s
  onlyIdentifier problem s
  return Text.trim s

def targetTest (name : String) : String → Except String String :=
  identifierTest name scriptLures (name ++ " contains invalid characters")

def playbookLures : List Text.Pattern := scriptLures ++ statementLures ++ [selectLure]

def explain : Form where
  name := "ExplainRequest"
  fields :=
    [required "playbook_id" (.tested (.text (some 1) (some 255))
      (identifierTest "playbook_id" playbookLures
        ("playbook_id contains invalid characters. "
          ++ "Use only alphanumeric, underscore, hyphen, or dot")))]

def questionTest (s : String) : Except String String := do
  twoWords "question" s
  refuseLures "question" (scriptLures ++ statementLures ++ overruleLures ++ secretLures) s
  if isMostlyPlain s then return Text.trim s
  else throw "question contains too many special characters"

def ask : Form where
  name := "AskRequest"
  fields := [required "question" (.tested (.text (some 3) (some 1000)) questionTest)]

def findingTest (s : String) : Except String String := do
  twoWords "finding" s
  refuseLures "finding" (scriptLures ++ statementLures ++ overruleLures) s
  return Text.trim s

def contextTest (s : String) : Except String String :=
  if s.isEmpty then .error "playbook_id must be a non-empty string when provided"
  else identifierTest "playbook_id" (scriptLures ++ statementLures)
    "playbook_id contains invalid characters" s

def suggest : Form where
  name := "SuggestRequest"
  fields :=
    [required "finding" (.tested (.text (some 3) (some 1000)) findingTest),
     optional "playbook_id" (.tested (.text none (some 255)) contextTest)]

def generate : Form where
  name := "GenerateRequest"
  fields :=
    [required "playbook_id" (.tested (.text (some 1) (some 255))
      (identifierTest "playbook_id" playbookLures "playbook_id contains invalid characters")),
     required "target_env" (.tested (.text (some 2) (some 100)) (targetTest "target_env")),
     required "target_siem" (.tested (.text (some 2) (some 50)) (targetTest "target_siem"))]

def assistantConfig : Form where
  name := "AIConfigRequest"
  fields := [required "provider", optional "groq_api_key",
    optional "openai_api_key"]

def assistantTest : Form where
  name := "AITestRequest"
  fields := [required "provider", required "api_key" (.text (some 1) none)]

end Huntbook.Form
