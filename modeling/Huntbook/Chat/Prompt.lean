import Huntbook.Value.Access

/-!
# Prompts

The texts in which a language model is asked for something.
-/

namespace Huntbook.Chat.Prompt

def assistantRole : String :=
  "You are an expert Threat Hunter and Detection Engineer with 10+ years of experience in "
    ++ "SOC enterprise environments.\n\nYour expertise includes:\n- MITRE ATT&CK framework "
    ++ "and tactics/techniques\n- Query languages: Splunk SPL, Elastic KQL, Sigma rules\n- "
    ++ "Windows/Linux forensics and log analysis\n- Malware analysis and IOC extraction\n- "
    ++ "Incident response procedures\n- Security monitoring and detection engineering\n\n"
    ++ "When explaining playbooks:\n1. Explain the attack technique in clear, practical "
    ++ "terms\n2. Describe what the queries detect and WHY they work\n3. List potential "
    ++ "false positives and how to reduce them\n4. Suggest practical investigation steps\n5. "
    ++ "Reference specific log sources and fields\n\nWhen generating query variants:\n1. "
    ++ "Adapt queries to the target environment/SIEM\n2. Maintain the same detection logic\n"
    ++ "3. Add detailed comments explaining each part\n4. Suggest alternative data sources "
    ++ "if needed\n5. Consider performance and false positive rate\n\nWhen answering general "
    ++ "questions:\n1. Be practical and actionable, not theoretical\n2. Provide specific "
    ++ "examples and code when relevant\n3. Reference real-world attack scenarios\n4. "
    ++ "Suggest detection and response steps\n5. Use industry best practices\n\nFormat your "
    ++ "responses clearly with:\n- Bullet points for lists\n- Code blocks for queries\n- "
    ++ "Clear section headers\n- Specific field names and values\n\nAlways be concise but "
    ++ "thorough. Focus on actionable intelligence."

def explanation (context : String) : String :=
  "Explain this threat hunting playbook in detail:\n\n"
    ++ context
    ++ "\n\nProvide:\n1. **Attack Overview**: What is this technique and why is it "
    ++ "dangerous?\n2. **Detection Logic**: Explain how the queries work and what they "
    ++ "detect\n3. **False Positives**: Common false positives and how to reduce them\n4. "
    ++ "**Investigation Steps**: Practical next steps when you find a match\n5. **Key "
    ++ "Indicators**: What to look for in the logs\n\nBe specific and actionable."

def inquiry (question context : Value) : Value :=
  if context.truthy then
    .text ("Context:\n" ++ context.plain ++ "\n\nQuestion: " ++ question.plain)
  else question

def nextSteps (finding context : String) : String :=
  "A threat hunter found this suspicious activity:\n"
    ++ finding
    ++ "\n"
    ++ context
    ++ "\n\nSuggest specific next steps for investigation:\n1. **Immediate Actions**: What "
    ++ "to check right now\n2. **Data to Collect**: What logs/artifacts to gather\n3. "
    ++ "**Queries to Run**: Specific SIEM queries to run\n4. **IOCs to Check**: What "
    ++ "indicators to look for\n5. **Escalation Criteria**: When to escalate to incident "
    ++ "response\n\nBe specific and actionable with exact field names and query examples."

def variant (context environment platform : String) : String :=
  "Generate a variant of this playbook for a different environment:\n\nOriginal Playbook:\n"
    ++ context
    ++ "\n\nTarget Environment: "
    ++ environment
    ++ "\nTarget SIEM: "
    ++ platform
    ++ "\n\nGenerate:\n1. **Adapted Query**: Complete, working query for "
    ++ platform
    ++ "\n2. **Data Sources**: Required logs/data sources in the target environment\n3. "
    ++ "**Field Mappings**: How fields map from original to target\n4. **Detection Logic**: "
    ++ "Explain how the detection works in the new environment\n5. **Limitations**: Any "
    ++ "limitations or gaps in the adapted version\n\nProvide a complete, copy-paste ready "
    ++ "query with detailed comments."

def labelled (label : String) (v : Value) (otherwise : String) : Try String :=
  if !v.truthy then .ok otherwise
  else match v with
    | .text s => .ok (label ++ s)
    | v => .error (.mismatch (.notAddable v.kind))

def mapperRole : String :=
  "You are a security detection engineer expert in Splunk and Sigma. "
    ++ "Respond only with valid JSON."

def mappings (fields available context : Value) : Try String := do
  let known := if available.truthy then
    "Available fields in environment: " ++ available.plain else ""
  let about ← labelled "Context: " context ""
  return "Suggest Splunk field mappings for these Sigma fields: "
    ++ fields.plain
    ++ "\n\n"
    ++ known
    ++ "\n"
    ++ about
    ++ "\n\nRespond with a JSON object mapping each Sigma field to the best Splunk field "
    ++ "name.\nConsider CIM (Common Information Model) conventions.\nIf unsure, use the "
    ++ "original field name.\n\nExample format:\n\x7b\"CommandLine\": "
    ++ "\"process_command_line\", \"Image\": \"process_path\"\x7d\n"

/-- What a rule is to be made for. -/
structure Wish where
  (description logSource level falsePositives techniques : Value)

def writerRole : String :=
  "You are a security detection engineer expert in Sigma rules and Splunk SPL.\nGenerate "
    ++ "valid Sigma YAML rules and corresponding Splunk SPL queries.\nAlways document your "
    ++ "assumptions clearly.\nRespond with valid JSON containing: sigma_yaml, spl_query, and "
    ++ "assumptions (list of strings)."

def detection (r : Wish) : Try String := do
  let source ← labelled "Log Source Hint: " r.logSource
    "Infer the appropriate log source from the description."
  return "Generate a Sigma detection rule and Splunk SPL query for:\n\nDescription: "
    ++ r.description.plain
    ++ "\n\n"
    ++ source
    ++ "\nLevel: "
    ++ r.level.plain
    ++ "\n\nRequirements:\n1. Create a valid Sigma YAML rule with proper logsource and "
    ++ "detection sections\n2. Generate the corresponding Splunk SPL query\n3. List all "
    ++ "assumptions you made\n"
    ++ (if r.falsePositives.truthy then "4. Include false positive considerations" else "")
    ++ "\n"
    ++ (if r.techniques.truthy then "5. Include relevant MITRE ATT&CK techniques" else "")
    ++ "\n\nRespond with JSON in this exact format:\n\x7b\n    \"sigma_yaml\": \"title: "
    ++ "...\\nstatus: experimental\\n...\",\n    \"spl_query\": \"index=... | where ...\",\n "
    ++ "   \"assumptions\": [\"assumption 1\", \"assumption 2\"]\n\x7d\n"

def editorRole : String :=
  "You are a Sigma rule expert. Enhance the rule while maintaining validity."

def improvement (search rule : Value) : String :=
  "Improve this Sigma rule generated from SPL:\n\nOriginal SPL:\n"
    ++ search.plain
    ++ "\n\nCurrent Sigma (best effort):\n"
    ++ rule.plain
    ++ "\n\nEnhance the Sigma rule by:\n1. Improving the detection logic\n2. Adding "
    ++ "appropriate modifiers (contains, startswith, etc.)\n3. Suggesting better field "
    ++ "names\n4. Adding missing metadata\n\nRespond with JSON:\n\x7b\n    "
    ++ "\"enhanced_sigma\": \"improved YAML here\",\n    \"improvements\": [\"list of "
    ++ "improvements made\"]\n\x7d\n"

end Huntbook.Chat.Prompt
