import Huntbook.Form.Playbook

/-!
# Forms of conversions

What goes in and out when rules are converted: profiles and the field mappings in them, rules and
searches to convert, and the results.
-/

namespace Huntbook.Form

def mappingStates : Texts := ["ok", "missing", "suggested"]

def directions : Texts := ["sigma_to_spl", "spl_to_sigma", "text_to_sigma"]

def profileFields : List Field :=
  [required "name", optional "description",
   withDefault "index_name" .anyText (.text "*"), optional "sourcetype",
   withDefault "cim_enabled" .bool (.bool false), optional "macros" (.dict .anyText)]

def profileBase : Form := ⟨"ProfileBase", profileFields⟩

def profileCreate : Form := ⟨"ProfileCreate", profileFields⟩

def profileUpdate : Form where
  name := "ProfileUpdate"
  fields :=
    [optional "name", optional "description", optional "index_name",
     optional "sourcetype", optional "cim_enabled" .bool, optional "is_default" .bool,
     optional "macros" (.dict .anyText)]

def profileResponse : Form where
  name := "ProfileResponse"
  fields := profileFields ++
    [required "id" .int, required "is_default" .bool, required "created_at" .moment,
     required "updated_at" .moment, withDefault "mapping_count" .int (.int 0)]

def mappingFields : List Field :=
  [required "sigma_field", required "target_field",
   withDefault "status" (.choice mappingStates) (.text "ok"), optional "category",
   optional "notes"]

def mappingBase : Form := ⟨"FieldMappingBase", mappingFields⟩

def mappingCreate : Form :=
  ⟨"FieldMappingCreate", mappingFields ++ [required "profile_id" .int]⟩

def mappingUpdate : Form where
  name := "FieldMappingUpdate"
  fields :=
    [optional "target_field", optional "status" (.choice mappingStates),
     optional "notes"]

def mappingResponse : Form where
  name := "FieldMappingResponse"
  fields := mappingFields ++
    [required "id" .int, required "profile_id" .int, required "created_at" .moment,
     required "updated_at" .moment]

def mappingImport : Form where
  name := "BulkMappingImport"
  fields := [required "profile_id" .int, required "mappings" (.list mappingBase.toKind)]

def convertRule : Form where
  name := "ConvertSigmaRequest"
  fields :=
    [required "sigma_yaml", optional "profile_id" .int, optional "cim_override" .bool,
     optional "index_override", optional "sourcetype_override",
     optional "time_range"]

def convertSearch : Form where
  name := "ConvertSPLRequest"
  fields :=
    [required "spl_query",
     withDefault "title" (.optional .anyText) (.text "Custom Detection Rule"),
     withDefault "level" .anyText (.text "medium"),
     withDefault "status" .anyText (.text "experimental"),
     optional "author", optional "description"]

def describe : Form where
  name := "DescribeRequest"
  fields :=
    [required "description", optional "log_source",
     withDefault "level" .anyText (.text "medium"),
     withDefault "include_false_positives" .bool (.bool false),
     withDefault "include_attack_techniques" .bool (.bool false)]

def alternativeSource : Form where
  name := "AlternativeLogSource"
  fields :=
    [required "name", required "description",
     withDefault "event_ids" (.list .int) (.list []), required "setup",
     withDefault "is_sysmon_alternative" .bool (.bool false)]

def requiredSource : Form where
  name := "RequiredLogSource"
  fields :=
    [required "name", required "description",
     optional "windows_channel", optional "splunk_sourcetype",
     withDefault "event_ids" (.list (.dict .any)) (.list []),
     withDefault "setup_instructions" .texts (.list []),
     withDefault "alternatives" (.list alternativeSource.toKind) (.list [])]

def prerequisites : Form where
  name := "PrerequisiteInfo"
  fields :=
    [required "log_source" (.dict (.optional .anyText)),
     withDefault "required_logs" (.list requiredSource.toKind) (.list []),
     withDefault "event_ids" (.list (.dict .any)) (.list []),
     withDefault "channels" .texts (.list []), withDefault "configuration" .texts (.list []),
     withDefault "has_alternatives" .bool (.bool false)]

def gapItem : Form where
  name := "GapItem"
  fields := [required "field", required "location", required "impact",
    required "suggestions" .texts]

def healthCheck : Form where
  name := "HealthCheck"
  fields := [required "name", required "description", required "query"]

def mappingResult : Form where
  name := "MappingResult"
  fields := [required "sigma_field", optional "target_field",
    required "status" (.choice mappingStates)]

def conversionResponse : Form where
  name := "ConversionResponse"
  fields :=
    [optional "id" .int, required "name", required "spl",
     optional "sigma_yaml", required "prerequisites" prerequisites.toKind,
     required "mappings" (.list mappingResult.toKind), required "gaps" (.list gapItem.toKind),
     required "health_checks" (.list healthCheck.toKind),
     optional "correlation_notes", withDefault "llm_used" .bool (.bool false)]

def historyItem : Form where
  name := "ConversionHistoryItem"
  fields :=
    [required "id" .int, required "name",
     required "conversion_type" (.choice directions), optional "profile_name",
     required "input_preview", required "output_preview",
     required "created_at" .moment]

def conversionDetail : Form where
  name := "ConversionDetail"
  fields :=
    [required "id" .int, required "name",
     required "conversion_type" (.choice directions), optional "profile_id" .int,
     optional "profile_name", required "input_content",
     optional "output_sigma", optional "output_spl",
     optional "prerequisites" (.dict .any), optional "gap_analysis" (.list (.dict .any)),
     optional "health_checks" (.list (.dict .any)), optional "correlation_notes",
     required "llm_used" .bool, required "created_at" .moment]

def ruleInfo : Form where
  name := "SigmaRuleInfo"
  fields :=
    [required "path", required "filename", required "title",
     optional "status", optional "level", optional "product",
     optional "service", optional "category",
     withDefault "tags" .texts (.list []), optional "description"]

def libraryState : Form where
  name := "SigmaRepoResponse"
  fields := [required "available" .bool, required "path", required "rule_count" .int]

def ruleContent : Form where
  name := "SigmaRuleContent"
  fields := [required "path", required "content", required "parsed" (.dict .any)]

def validateRule : Form where
  name := "ValidateSigmaRequest"
  fields := [required "yaml_content"]

/-! ## The catalogue of forms -/

def catalog : List Form :=
  [profileBase, profileCreate, profileUpdate, profileResponse, mappingBase, mappingCreate,
   mappingUpdate, mappingResponse, mappingImport, convertRule, convertSearch, describe,
   alternativeSource, requiredSource, prerequisites, gapItem, healthCheck, mappingResult,
   conversionResponse, historyItem, conversionDetail, ruleInfo, libraryState, ruleContent,
   explain, ask, suggest, generate, createPlaybook, updatePlaybook, assistantConfig,
   assistantTest, validateRule]

def named? (name : String) : Option Form := catalog.find? fun f => f.name == name

end Huntbook.Form
