import Huntbook.Value.Basic

/-!
# The schema of playbooks

What a playbook has to look like, as a JSON schema.
-/

namespace Huntbook.Playbook

def textSchema (rules : Fields) : Value := .record (("type", .text "string") :: rules)

def listSchema (items : Value) (rules : Fields) : Value :=
  .record ([("type", .text "array"), ("items", items)] ++ rules)

def textListSchema : Value := listSchema (textSchema []) []

def actionsSchema (description : String) : Value :=
  listSchema (textSchema []) [("description", .text description)]

def attackSchema : Value :=
  .record
    [("type", .text "object"),
     ("required", .ofTexts ["technique", "tactic"]),
     ("properties", .record
       [("technique", textSchema [("pattern", .text "^T[0-9]\x7b4\x7d$")]),
        ("tactic", textSchema []),
        ("subtechniques", listSchema
          (textSchema [("pattern", .text "^T[0-9]\x7b4\x7d\\.[0-9]\x7b3\x7d$")]) [])])]

def indicatorSchema : Value :=
  .record
    [("type", .text "object"),
     ("properties", .record
       [("type", textSchema [("enum", .ofTexts
          ["domain", "ip", "hash", "url", "email", "file", "registry"])]),
        ("value", textSchema []),
        ("context", textSchema [])])]

def queriesSchema : Value :=
  .record
    [("type", .text "object"),
     ("properties", .record
       [("splunk", textSchema []), ("elastic", textSchema []), ("sigma", textSchema [])])]

def responseSchema : Value :=
  .record
    [("type", .text "object"),
     ("description", .text "Incident response actions by severity"),
     ("properties", .record
       [("containment", actionsSchema "Immediate containment actions"),
        ("eradication", actionsSchema "Steps to remove the threat"),
        ("recovery", actionsSchema "Recovery and restoration steps"),
        ("quick_wins", actionsSchema "Quick actions for immediate risk reduction")])]

def requiredFields : Texts :=
  ["id", "name", "description", "mitre", "severity", "author", "created", "hunt_hypothesis",
   "queries"]

def fieldSchemas : Fields :=
  [("id", textSchema
     [("pattern", .text "^PB-T[0-9]\x7b4\x7d-[0-9]\x7b3\x7d$"),
      ("description", .text "Unique playbook identifier (e.g., PB-T1566-001)")]),
   ("name", textSchema [("minLength", .int 5), ("description", .text "Playbook name")]),
   ("description", textSchema [("description", .text "Brief description of the playbook")]),
   ("mitre", attackSchema),
   ("severity", textSchema [("enum", .ofTexts ["critical", "high", "medium", "low"])]),
   ("author", textSchema []),
   ("created", textSchema [("format", .text "date")]),
   ("updated", textSchema [("format", .text "date")]),
   ("data_sources", textListSchema),
   ("hunt_hypothesis", textSchema
     [("description", .text "Narrative description of the hunting hypothesis")]),
   ("queries", queriesSchema),
   ("investigation_steps", textListSchema),
   ("false_positives", textListSchema),
   ("iocs", listSchema indicatorSchema []),
   ("references", listSchema (textSchema [("format", .text "uri")]) []),
   ("tags", textListSchema),
   ("response", responseSchema)]

def standardSchema : Value :=
  .record
    [("$schema", .text "http://json-schema.org/draft-07/schema#"),
     ("title", .text "Threat Hunting Playbook Schema"),
     ("description", .text "Schema for threat hunting playbook YAML files"),
     ("type", .text "object"),
     ("required", .ofTexts requiredFields),
     ("properties", .record fieldSchemas)]

end Huntbook.Playbook
