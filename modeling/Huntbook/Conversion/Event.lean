import Huntbook.Conversion.LogSource

/-!
# Events and their logs

What is known about event codes and about the logs that record the events: how a log is called,
where it is found, how it is set up, and which other logs can stand in for it.
-/

namespace Huntbook.Conversion

structure Event where
  id : Value
  (name source : String)

def namedEvents : List (String × List (Nat × String)) :=
  [("Sysmon",
    [(1, "Process Creation"), (2, "File Creation Time Changed"), (3, "Network Connection"),
     (5, "Process Terminated"), (6, "Driver Loaded"), (7, "Image Loaded"),
     (8, "CreateRemoteThread"), (9, "RawAccessRead"), (10, "ProcessAccess"), (11, "File Created"),
     (12, "Registry Object Added/Deleted"), (13, "Registry Value Set"),
     (14, "Registry Key/Value Renamed"), (15, "FileCreateStreamHash"), (17, "PipeEvent Created"),
     (18, "PipeEvent Connected"), (19, "WMI Event Filter"), (20, "WMI Event Consumer"),
     (21, "WMI Consumer Binding"), (22, "DNS Query"), (23, "File Delete Archived"),
     (24, "Clipboard Change"), (25, "Process Tampering"), (26, "File Delete Logged"),
     (27, "File Block Executable"), (28, "File Block Shredding"), (29, "FileExecutableDetected")]),
   ("Security",
    [(4624, "Successful Logon"), (4625, "Failed Logon"), (4634, "Logoff"),
     (4648, "Explicit Credential Logon"), (4656, "Object Handle Requested"),
     (4657, "Registry Value Modified"), (4663, "Object Access Attempt"),
     (4672, "Special Privileges Assigned"), (4688, "Process Creation"),
     (4689, "Process Termination"), (4697, "Service Installed"), (4698, "Scheduled Task Created"),
     (4699, "Scheduled Task Deleted"), (4700, "Scheduled Task Enabled"),
     (4701, "Scheduled Task Disabled"), (4702, "Scheduled Task Updated"),
     (4703, "Token Privileges Adjusted"), (4720, "User Account Created"),
     (4722, "User Account Enabled"), (4723, "Password Change Attempt"),
     (4724, "Password Reset Attempt"), (4725, "User Account Disabled"),
     (4726, "User Account Deleted"), (4728, "Member Added to Global Group"),
     (4732, "Member Added to Local Group"), (4738, "User Account Changed"),
     (4756, "Member Added to Universal Group"), (4768, "Kerberos TGT Request"),
     (4769, "Kerberos Service Ticket Request"), (4770, "Kerberos Service Ticket Renewed"),
     (4771, "Kerberos Pre-Auth Failed"), (4776, "NTLM Authentication"),
     (5140, "Network Share Access"), (5145, "Network Share Object Check"),
     (5156, "Windows Filtering Platform Connection"), (5157, "Windows Filtering Platform Block")]),
   ("PowerShell",
    [(4103, "Module Logging"), (4104, "Script Block Logging")]),
   ("Firewall",
    [(2003, "Firewall Rule Added"), (2004, "Firewall Rule Modified"),
     (2005, "Firewall Rule Deleted"), (2006, "Firewall Rules Deleted")]),
   ("AppLocker",
    [(8002, "AppLocker policy applied"), (8003, "EXE/DLL would be allowed"),
     (8004, "EXE/DLL blocked"), (8005, "Script would be allowed"),
     (8006, "Script would be blocked"), (8007, "DLL required to run"),
     (8020, "MSI/Script would be allowed"), (8021, "Packaged app would be allowed"),
     (8022, "MSI blocked"), (8023, "Packaged app blocked"),
     (8024, "Packaged app would be allowed (audit)"), (8025, "Script blocked")])]

def Event.ofCode (code : Value) : Event :=
  let known := namedEvents.findSome? fun (source, events) =>
    (events.find? fun e => code.same (.int e.1)).map fun e => (e.2, source)
  match known with
  | some (name, source) => ⟨code, name, source⟩
  | none => ⟨code, "Unknown", "Unknown"⟩

def Event.toValue (e : Event) : Value :=
  .record [("id", e.id), ("name", .text e.name), ("source", .text e.source)]

/-- Another log that tells of the same. -/
structure Alternative where
  (name description : String)
  events : List Nat
  setup : String
  usesSysmon : Bool

/-- A log, and how to set it up. -/
structure LogInfo where
  (name description channel : String)
  sourcetype : String := "XmlWinEventLog:" ++ channel
  setup : Texts
  alternatives : List Alternative := []

def knownLogs : List (String × LogInfo) :=
  [⟨"sysmon",
    { name := "Windows Sysmon"
      description := "System Monitor - provides detailed information about process creations, "
        ++ "network connections, file changes, registry modifications, and more"
      channel := "Microsoft-Windows-Sysmon/Operational"
      setup :=
        ["Download Sysmon from Microsoft Sysinternals",
         "Install with a configuration file: sysmon64.exe -accepteula -i sysmonconfig.xml",
         "Use SwiftOnSecurity or Olaf Hartong's sysmon-modular config for comprehensive logging",
         "Ensure Splunk Universal Forwarder is configured to collect Sysmon events"] }⟩,
   ⟨"security",
    { name := "Windows Security"
      description := "Windows Security Event Log - captures authentication, authorization, and "
        ++ "audit events"
      channel := "Security"
      setup :=
        ["Enable Advanced Audit Policy via GPO (Computer Configuration > Policies > Windows "
           ++ "Settings > Security Settings > Advanced Audit Policy)",
         "Enable 'Audit Process Creation' for Event ID 4688",
         "Enable command line logging: GPO > Administrative Templates > System > Audit Process "
           ++ "Creation > Include command line",
         "Configure Splunk to collect Security event log"] }⟩,
   ⟨"powershell",
    { name := "Windows PowerShell"
      description := "PowerShell operational and script block logging for detecting malicious "
        ++ "script execution"
      channel := "Microsoft-Windows-PowerShell/Operational"
      setup :=
        ["Enable Module Logging: GPO > Administrative Templates > Windows Components > Windows "
           ++ "PowerShell > Turn on Module Logging",
         "Enable Script Block Logging: GPO > Administrative Templates > Windows Components > "
           ++ "Windows PowerShell > Turn on Script Block Logging",
         "Enable Transcription (optional): Turn on PowerShell Transcription for full session logs",
         "Ensure PowerShell v5+ is installed for enhanced logging"] }⟩,
   ⟨"system",
    { name := "Windows System"
      description := "Windows System Event Log - captures system-level events including "
        ++ "services, drivers, and hardware"
      channel := "System"
      setup :=
        ["System logging is enabled by default",
         "Configure Splunk Universal Forwarder to collect System event log"] }⟩,
   ⟨"firewall",
    { name := "Windows Firewall"
      description := "Windows Firewall with Advanced Security logs - network connection "
        ++ "filtering and rule changes"
      channel := "Microsoft-Windows-Windows Firewall With Advanced Security/Firewall"
      setup :=
        ["Enable Windows Firewall logging via GPO or local policy",
         "Configure logging: Windows Firewall > Properties > Logging > Log dropped packets "
           ++ "and/or successful connections",
         "Default log location: %systemroot%\\system32\\LogFiles\\Firewall\\pfirewall.log",
         "Configure Splunk to collect firewall events"] }⟩,
   ⟨"defender",
    { name := "Windows Defender"
      description := "Windows Defender Antivirus events - malware detection, scan results, and "
        ++ "protection status"
      channel := "Microsoft-Windows-Windows Defender/Operational"
      setup :=
        ["Windows Defender logging is enabled by default when Defender is active",
         "Configure Splunk to collect Windows Defender event log"] }⟩,
   ⟨"applocker",
    { name := "Windows AppLocker"
      description := "Application control policy events - blocks and allows for executables, "
        ++ "DLLs, scripts, and installers"
      channel := "Microsoft-Windows-AppLocker/EXE and DLL"
      setup :=
        ["Enable AppLocker via GPO: Computer Configuration > Windows Settings > Security "
           ++ "Settings > Application Control Policies > AppLocker",
         "Configure rules for Executable Rules, Windows Installer Rules, Script Rules, and "
           ++ "Packaged app Rules",
         "Set enforcement mode: Audit Only (events logged but not blocked) or Enforce Rules",
         "Ensure Application Identity service (AppIDSvc) is running: sc config appidsvc "
           ++ "start=auto && net start appidsvc",
         "Configure Splunk Universal Forwarder to collect AppLocker event logs from all 4 "
           ++ "channels"]
      alternatives :=
        [{ name := "Windows Security (Process Creation)"
           description := "Use Event ID 4688 for basic process execution tracking - less "
             ++ "detailed than AppLocker but available without additional configuration"
           events := [4688]
           setup := "Enable via GPO: Advanced Audit Policy > Detailed Tracking > Audit Process "
             ++ "Creation. Also enable command line logging: Administrative Templates > System > "
             ++ "Audit Process Creation > Include command line"
           usesSysmon := false },
         { name := "Sysmon Process Creation"
           description := "Use Sysmon Event ID 1 for detailed process creation logging with "
             ++ "hashes, parent process, and command line"
           events := [1]
           setup := "Install Sysmon with a configuration that enables ProcessCreate events"
           usesSysmon := true }] }⟩]

def logInfo? (key : String) : Option LogInfo := (knownLogs.find? fun l => l.1 == key).map (·.2)

def categoryLogs : List (String × Texts) :=
  [("process_creation", ["sysmon", "security"]),
   ("network_connection", ["sysmon", "firewall"])]
    ++ (["file_event", "file_creation", "file_delete", "file_rename", "file_change", "dns_query",
      "dns", "registry_event", "registry_set", "registry_add", "registry_delete", "image_load",
      "driver_load", "pipe_created", "wmi_event"].map (·, ["sysmon"]))
    ++ (["ps_script", "ps_module", "ps_classic_start", "ps_classic_script"].map
      (·, ["powershell"]))

def Alternative.toValue (a : Alternative) : Value :=
  .record [("name", .text a.name), ("description", .text a.description),
    ("event_ids", .list (a.events.map fun (n : Nat) => .int n)), ("setup", .text a.setup),
    ("is_sysmon_alternative", .bool a.usesSysmon)]

end Huntbook.Conversion
