import Huntbook.Search

/-!
# Log sources

A detection rule names the log source that it is about by product, service and category. A `Feed` is
where a search finds its events: an index, a source type and event codes.
-/

namespace Huntbook.Conversion

open Search (FieldMap)

/-! ## Field maps

Which fields of the searched events stand for the fields of rules. Most fields keep their names. -/

def keptFields : Texts :=
  ["CommandLine", "Image", "ParentImage", "ParentCommandLine", "User", "IntegrityLevel",
   "CurrentDirectory", "ProcessId", "ParentProcessId", "OriginalFileName", "Hashes", "Company",
   "Description", "Product", "FileVersion", "TargetFilename", "SourceFilename", "CreationUtcTime",
   "DestinationIp", "DestinationPort", "SourceIp", "SourcePort", "DestinationHostname",
   "Protocol", "TargetObject", "Details", "EventType", "QueryName", "QueryResults",
   "ScriptBlockText", "EngineVersion", "HostApplication", "TargetUserName", "TargetDomainName",
   "SubjectUserName", "SubjectDomainName", "LogonType", "IpAddress", "WorkstationName", "Channel"]

def renamedFields : TextPairs :=
  [("EventID", "EventCode"), ("Provider_Name", "SourceName")]

def modelFields : TextPairs :=
  [("CommandLine", "process_command_line"), ("Image", "process_path"),
   ("ParentImage", "parent_process_path"), ("ParentCommandLine", "parent_process_command_line"),
   ("User", "user"), ("ProcessId", "process_id"), ("ParentProcessId", "parent_process_id"),
   ("TargetFilename", "file_path"), ("DestinationIp", "dest_ip"),
   ("DestinationPort", "dest_port"), ("SourceIp", "src_ip"), ("SourcePort", "src_port"),
   ("TargetUserName", "user"), ("IpAddress", "src_ip")]

def defaultFields : FieldMap :=
  keptFields.map (fun f => (f, .text f)) ++ renamedFields.map (fun f => (f.1, .text f.2))

/-- The field map of a conversion: custom entries before those of the common information model,
    if it is used, before the default ones. -/
def fieldMap (custom : FieldMap) (useModel : Bool) : FieldMap :=
  custom ++ (if useModel then FieldMap.ofNames modelFields else [])
    ++ defaultFields

/-- Where events are found. -/
structure Feed where
  (index sourcetype : String)
  codes : List Nat

def sysmonEvents : String := "XmlWinEventLog:Microsoft-Windows-Sysmon/Operational"

def powershellEvents : String := "XmlWinEventLog:Microsoft-Windows-PowerShell/Operational"

structure KnownSource where
  product : String
  (service category : Option String)
  feed : Feed

/-- The logs of the services of one product. -/
def windowsServices : TextPairs :=
  [("sysmon", sysmonEvents), ("security", "XmlWinEventLog:Security"),
   ("system", "XmlWinEventLog:System"), ("powershell", powershellEvents),
   ("powershell-classic", "XmlWinEventLog:Windows PowerShell"),
   ("windefend", "XmlWinEventLog:Microsoft-Windows-Windows Defender/Operational"),
   ("firewall-as",
    "XmlWinEventLog:Microsoft-Windows-Windows Firewall With Advanced Security/Firewall"),
   ("bits-client", "XmlWinEventLog:Microsoft-Windows-Bits-Client/Operational"),
   ("taskscheduler", "XmlWinEventLog:Microsoft-Windows-TaskScheduler/Operational"),
   ("wmi", "XmlWinEventLog:Microsoft-Windows-WMI-Activity/Operational"),
   ("dns-server", "XmlWinEventLog:DNS Server"),
   ("applocker", "XmlWinEventLog:Microsoft-Windows-AppLocker/EXE and DLL")]

/-- The codes of the events by which a sensor tells of each category. -/
def sysmonCategories : List (String × List Nat) :=
  [("process_creation", [1]), ("file_event", [11]), ("file_creation", [11]), ("file_delete", [23]),
   ("network_connection", [3]), ("registry_event", [12, 13, 14]), ("registry_set", [13]),
   ("registry_add", [12]), ("registry_delete", [12]), ("dns_query", [22]), ("image_load", [7]),
   ("driver_load", [6]), ("pipe_created", [17]), ("wmi_event", [19, 20, 21]),
   ("create_remote_thread", [8]), ("process_access", [10])]

def knownSources : List KnownSource :=
  (windowsServices.map fun (name, log) => ⟨"windows", some name, none, ⟨"windows", log, []⟩⟩) ++
  (sysmonCategories.map fun (name, codes) =>
    ⟨"windows", none, some name, ⟨"windows", sysmonEvents, codes⟩⟩) ++
  [⟨"windows", none, some "ps_script", ⟨"windows", powershellEvents, [4104]⟩⟩,
   ⟨"windows", none, some "ps_module", ⟨"windows", powershellEvents, [4103]⟩⟩,
   ⟨"windows", none, some "ps_classic_start",
    ⟨"windows", "XmlWinEventLog:Windows PowerShell", [400]⟩⟩,
   ⟨"windows", some "powershell", some "ps_script", ⟨"windows", powershellEvents, [4104]⟩⟩,
   ⟨"windows", some "powershell", some "ps_module", ⟨"windows", powershellEvents, [4103]⟩⟩,
   ⟨"linux", some "syslog", none, ⟨"linux", "syslog", []⟩⟩,
   ⟨"linux", some "audit", none, ⟨"linux", "linux:audit", []⟩⟩,
   ⟨"linux", none, some "process_creation", ⟨"linux", "linux:audit", []⟩⟩,
   ⟨"linux", none, some "file_event", ⟨"linux", "linux:audit", []⟩⟩,
   ⟨"linux", none, some "network_connection", ⟨"linux", "linux:audit", []⟩⟩]

def anyFeed : Feed := ⟨"*", "*", []⟩

def Feed.codesText (f : Feed) : String := " OR EventCode=".intercalate (f.codes.map toString)

/-- Where a rule says that its events come from. -/
structure LogSource where
  (product service category : Value)

def LogSource.ofRule (rule : Value) : Try LogSource := do
  let source ← rule.getOr "logsource" (.map [])
  let product ← source.get "product"
  let service ← source.get "service"
  let category ← source.get "category"
  return ⟨product, service, category⟩

def KnownSource.isNamed (known : KnownSource) (product service category : Value) : Bool :=
  product.same (.text known.product) && service.same (.ofText? known.service)
    && category.same (.ofText? known.category)

def feed? (product service category : Value) : Option Feed :=
  (knownSources.find? fun k => k.isNamed product service category).map (·.feed)

def LogSource.feed (s : LogSource) : Try Feed :=
  match [s.product, s.service, s.category].find? fun v => !v.hashable with
  | some v => .error v.keyFault
  | none =>
    .ok <| ((feed? s.product s.service s.category).or (feed? s.product s.service .null)).or
      (feed? s.product .null s.category) |>.getD anyFeed

end Huntbook.Conversion
