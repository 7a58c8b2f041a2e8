import Huntbook.Value.Access

/-!
# Techniques

Techniques and tactics of the MITRE ATT&CK catalogue. A tactic lists its techniques; a technique
belongs first of all to the first tactic that lists it.
-/

namespace Huntbook.Attack

def tactics : List (String × Texts) :=
  [("initial-access", ["T1566", "T1190", "T1133", "T1078"]),
   ("execution", ["T1059", "T1106", "T1053", "T1203"]),
   ("persistence", ["T1053", "T1543", "T1547", "T1136"]),
   ("privilege-escalation", ["T1548", "T1134", "T1068", "T1078"]),
   ("defense-evasion", ["T1562", "T1070", "T1036", "T1027"]),
   ("credential-access", ["T1003", "T1110", "T1558", "T1212"]),
   ("discovery", ["T1087", "T1083", "T1046", "T1018"]),
   ("lateral-movement", ["T1021", "T1570", "T1534", "T1550"]),
   ("collection", ["T1560", "T1113", "T1005", "T1039"]),
   ("command-and-control", ["T1071", "T1573", "T1095", "T1105"]),
   ("exfiltration", ["T1041", "T1048", "T1567", "T1030"]),
   ("impact", ["T1486", "T1490", "T1485", "T1489"])]

def techniqueNames : TextPairs :=
  [("T1566", "Phishing"), ("T1059", "Command and Scripting Interpreter"),
   ("T1003", "OS Credential Dumping"), ("T1190", "Exploit Public-Facing Application"),
   ("T1133", "External Remote Services"), ("T1078", "Valid Accounts"), ("T1106", "Native API"),
   ("T1053", "Scheduled Task/Job"), ("T1203", "Exploitation for Client Execution"),
   ("T1543", "Create or Modify System Process"), ("T1547", "Boot or Logon Autostart Execution"),
   ("T1136", "Create Account"), ("T1548", "Abuse Elevation Control Mechanism"),
   ("T1134", "Access Token Manipulation"), ("T1068", "Exploitation for Privilege Escalation"),
   ("T1562", "Impair Defenses"), ("T1070", "Indicator Removal"), ("T1036", "Masquerading"),
   ("T1027", "Obfuscated Files or Information"), ("T1110", "Brute Force"),
   ("T1558", "Steal or Forge Kerberos Tickets"), ("T1212", "Exploitation for Credential Access"),
   ("T1087", "Account Discovery"), ("T1083", "File and Directory Discovery"),
   ("T1046", "Network Service Discovery"), ("T1018", "Remote System Discovery"),
   ("T1021", "Remote Services"), ("T1570", "Lateral Tool Transfer"),
   ("T1534", "Internal Spearphishing"), ("T1550", "Use Alternate Authentication Material"),
   ("T1560", "Archive Collected Data"), ("T1113", "Screen Capture"),
   ("T1005", "Data from Local System"), ("T1039", "Data from Network Shared Drive"),
   ("T1071", "Application Layer Protocol"), ("T1573", "Encrypted Channel"),
   ("T1095", "Non-Application Layer Protocol"), ("T1105", "Ingress Tool Transfer"),
   ("T1041", "Exfiltration Over C2 Channel"), ("T1048", "Exfiltration Over Alternative Protocol"),
   ("T1567", "Exfiltration Over Web Service"), ("T1030", "Data Transfer Size Limits"),
   ("T1486", "Data Encrypted for Impact"), ("T1490", "Inhibit System Recovery"),
   ("T1485", "Data Destruction"), ("T1489", "Service Stop")]

def techniqueName (id : String) : String := (techniqueNames.lookup id).getD "Unknown"

def techniquesOf (tactic : String) : Texts :=
  (tactics.lookup (Text.replace (Text.lower tactic) " " "-")).getD []

def tacticOf? (id : String) : Option String :=
  (tactics.find? fun t => t.2.contains id).map (·.1)

def tacticNames : Texts := tactics.map (·.1)

def isKnown (id : String) : Bool :=
  Text.startsWith id "T" && id.length ≥ 5 && (techniqueNames.lookup id).isSome

def url (id : String) : String :=
  "https://attack.mitre.org/techniques/" ++ Text.replace id "." "/" ++ "/"

/-! ### Values as identifiers -/

def nameOf (id : Value) : Try String :=
  match id with
  | .text s => .ok (techniqueName s)
  | v => if v.hashable then .ok "Unknown" else .error (Value.keyFault v)

def tacticOf (id : Value) : Option String := id.text?.bind tacticOf?

def summaryOf (id : Value) : Try String := do
  let name ← nameOf id
  return id.plain ++ " - " ++ name ++ (match tacticOf id with
    | some tactic => " (" ++ tactic ++ ")"
    | none => "")

end Huntbook.Attack
