import Huntbook.Starter.Draft

/-!
# Further playbooks

One more playbook for each of several tactics.
-/

namespace Huntbook.Starter

def furtherSet : List Draft := [draft "
 T1583-acquire-infrastructure; resource-development; medium
 Acquire Infrastructure
 use of newly acquired infrastructure for malicious purposes
 DNS Logs; Proxy Logs; Threat Intelligence
 New legitimate business domains; Marketing campaign domains; Cloud service providers
 infrastructure; domain; dns
 T1583.001; T1583.003; T1583.006
 ~Adversaries acquire infrastructure including domains, servers, and web services before attacks.
 Indicators include:
 1. Newly registered domains (< 30 days old)
 2. DNS lookups to suspicious TLDs
 3. Connections to VPS/cloud providers from unusual endpoints
 4. Look-alike domains targeting the organization
 ~Query domain registration date (WHOIS)
 Check domain reputation across threat intel feeds
 Analyze DNS resolution patterns
 Look for typosquatting attempts against company domains
 Review any downloaded content from suspicious domains" "
 index=dns OR index=proxy
 | lookup domain_age_lookup domain AS query OUTPUT registration_date, domain_age_days
 ? domain_age_days < 30 OR isnull(domain_age_days)
 ~rex query \"(?<tld>\\.[a-z]\x7b2,\x7d)$\"
 | search tld IN (\".xyz\", \".top\", \".club\", \".work\", \".click\", \".loan\", \".online\")
 ~count dc(src_ip) as unique_clients by query, tld
 ? count > 5" "
 dns.question.name:* AND
 (dns.question.name:*.xyz OR dns.question.name:*.top OR dns.question.name:*.click)
 ~count() by dns.question.name, source.ip
 ? count > 5"
  [detector "Connection to Newly Registered Domain"
    "a2345678-bcde-2345-6789-bcdef234567a" ["category: dns"] "
  query|endswith; .xyz; .top; .club; .click; .online"],

  draft "
 T1106-native-api; execution; high
 Suspicious Native API Execution
 malicious use of Windows Native API calls for code execution
 Process Creation; API Monitoring; Sysmon
 Security tools; Development environments; Debugging tools
 native-api; injection; evasion
 ~Adversaries use Windows Native API (ntdll.dll) to bypass security controls.
 Common abuse includes:
 1. NtCreateProcess/NtCreateThreadEx for process hollowing
 2. NtAllocateVirtualMemory for shellcode injection
 3. NtWriteVirtualMemory for code injection
 4. Direct syscalls to evade EDR hooks
 ~Analyze parent-child process relationships
 Check for memory allocation patterns
 Review process command lines
 Correlate with network connections
 Look for unsigned binaries making API calls" r#"
 ~sysmon 10
 | search TargetImage="*\lsass.exe" OR TargetImage="*\csrss.exe"
 ? GrantedAccess IN ("0x1FFFFF", "0x1010", "0x1410", "0x143A")
 ~by SourceImage, TargetImage, GrantedAccess, Computer
 ? count > 0"# "
 winlog.event_id:10 AND
 (~data.TargetImage:*lsass.exe OR ~data.TargetImage:*csrss.exe) AND
 ~data.GrantedAccess:(0x1FFFFF OR 0x1010 OR 0x1410)"
  [detector "Suspicious Process Access to LSASS"
    "b3456789-cdef-3456-789a-cdef3456789b" ["product: windows", "category: process_access"] r#"
  Target~image: '\lsass.exe'
  GrantedAccess; 0x1FFFFF; 0x1010; 0x1410; 0x143A
 filter:
  Source~image; \MsMpEng.exe; \vmtoolsd.exe"#
    none ["attack.execution", "attack.t1106", "attack.credential_access"]],

  draft "
 T1546-event-triggered-execution; persistence; high
 Event Triggered Execution
 persistence through event-triggered execution mechanisms
 Windows Registry; Process Creation; File Creation
 Software installers; System management tools; Accessibility software
 event-triggered; wmi; registry
 T1546.001; T1546.003; T1546.008; T1546.015
 ~Adversaries abuse event-triggered execution for persistence:
 1. Application Shimming (T1546.011)
 2. Image File Execution Options (T1546.012)
 3. WMI Event Subscription (T1546.003)
 4. PowerShell Profile modification (T1546.013)
 5. Accessibility Features (T1546.008)
 ~Review WMI permanent event subscriptions
 Check IFEO debugger registry keys
 Analyze PowerShell profile scripts
 Look for accessibility feature replacement
 Review AppInit_DLLs and AppCert registry keys" r#"
 # WMI Event Subscription Detection
 index=wineventlog source="WinEventLog:Microsoft-Windows-WMI-Activity/Operational"
 | search EventCode IN (5857, 5858, 5859, 5860, 5861)
 ~rex Message "(?<consumer_name>~cmdEventConsumer|ActiveScriptEventConsumer)"
 ? isnotnull(consumer_name)
 ~by Computer, consumer_name, Message

 # IFEO Debugger Detection
 ~sysmon 13
 | search TargetObject="*\Image File Execution Options\*\Debugger"
 ~by Computer, TargetObject, Details, Image"# r#"
 (winlog.provider_name:"Microsoft-Windows-WMI-Activity" AND
 winlog.event_id:(5857 OR 5858 OR 5859 OR 5860 OR 5861)) OR
 (winlog.event_id:13 AND registry.path:*Image\ File\ Execution\ Options*)"#
  [detector "WMI Event Subscription Persistence"
    "c4567890-def0-4567-89ab-def04567890c" ["product: windows", "service: wmi"] "
  EventID:
   - 5857
   - 5858
   - 5859
   - 5860
   - 5861
 keywords:
  - '~cmdEventConsumer'
  - 'ActiveScriptEventConsumer'" none ["attack.persistence", "attack.t1546.003"]],

  draft "
 T1055-process-injection; privilege-escalation; critical
 Process Injection
 various process injection techniques used for privilege escalation and defense evasion
 Process Monitoring; API Monitoring; Sysmon
 Anti-virus software; System management tools; Debugging utilities
 defense-evasion; injection; critical
 T1055.001; T1055.002; T1055.003; T1055.012
 ~Adversaries inject code into legitimate processes to:
 1. Execute under a different process context
 2. Evade process-based defenses
 3. Elevate privileges
 Common techniques: DLL injection, PE injection, process hollowing, thread hijacking
 ~Analyze process trees for suspicious parent-child relationships
 Review memory allocations in system processes
 Check for CreateRemoteThread calls to system processes
 Look for anomalous modules loaded in trusted processes
 Correlate with network activity from injected processes" r#"
 # CreateRemoteThread Detection
 ~sysmon 8
 | search TargetImage IN ("*\svchost.exe", "*\explorer.exe", "*\lsass.exe", "*\services.exe")
 ? SourceImage!=TargetImage
 | eval suspicious=if(match(SourceImage, "(?i)(temp|appdata|downloads|public)"), 1, 0)
 ? suspicious=1
 ~by SourceImage, TargetImage, Computer

 # Process Hollowing - Suspended Process
 ~run
 | search ParentImage="*\cmd.exe" OR ParentImage="*\powershell.exe"
 ? Image IN ("*\svchost.exe", "*\dllhost.exe", "*\RuntimeBroker.exe")
 ~by ParentImage, Image, ~cmd, Computer"# "
 (winlog.event_id:8 AND
 ~data.TargetImage:(*svchost.exe OR *explorer.exe OR *lsass.exe) AND
 ~data.SourceImage:(*temp* OR *appdata* OR *downloads*))"
  [detector "CreateRemoteThread Into System Process"
    "d5678901-ef01-5678-9abc-ef015678901d"
    ["product: windows", "category: create_remote_thread"] r#"
  Target~image; \svchost.exe; \lsass.exe; \services.exe; \winlogon.exe
 filter:
  Source~image; \csrss.exe; \wininit.exe; \MsMpEng.exe"#
    none ["attack.privilege_escalation", "attack.defense_evasion", "attack.t1055"]],

  draft "
 T1036-masquerading; defense-evasion; high
 Masquerading
 masquerading attempts where adversaries disguise malicious activity as legitimate
 Process Creation; File Monitoring; Binary Metadata
 Renamed legitimate tools; Portable applications; Custom scripts
 masquerading; lolbas
 T1036.003; T1036.004; T1036.005
 ~Adversaries masquerade malicious files and processes as legitimate ones:
 1. Naming executables similar to system binaries (svchost vs svch0st)
 2. Running malicious code from legitimate directories
 3. Manipulating file extensions
 4. Spoofing file signatures and metadata
 ~Compare binary hashes against known good baselines
 Verify digital signatures on suspicious executables
 Check file locations against expected paths
 Review process command lines for typosquatting
 Analyze file metadata and compile timestamps" r#"
 # System Binary Running from Wrong Location
 ~run
 ~rex Image "(?<filename>[^\\]+)$"
 ? filename IN ("svchost.exe", "csrss.exe", "lsass.exe", "services.exe", "smss.exe", "winlogon.exe")
 ? NOT match(Image, "(?i)C:\\Windows\\System32")
 ~by Image, ~cmd, ParentImage, Computer

 # Typosquatting Detection
 ~run
 ~rex Image "(?<filename>[^\\]+)$"
 ? match(filename, "(?i)(svch0st|scvhost|csvhost|lssas|lsas|csrs)")
 ~by Image, ParentImage, ~cmd, Computer"# r#"
 (process.name:(svchost.exe OR csrss.exe OR lsass.exe OR services.exe) AND
 NOT process.executable:C\:\\Windows\\System32\*) OR
 process.name:(svch0st.exe OR scvhost.exe OR lssas.exe OR csrs.exe)"#
  [detector "System Binary Running From Unusual Location"
    "e6789012-f012-6789-abcd-f0126789012e" windowsProcesses r#"
  ~image; \svchost.exe; \csrss.exe; \lsass.exe; \services.exe
 filter:
  Image|startswith: 'C:\Windows\System32\'"#],

  draft "
 T1552-unsecured-credentials; credential-access; high
 Unsecured Credentials Discovery
 attempts to find unsecured credentials in files, registry, and other locations
 Process Creation; File Access; Command Line
 System administration tools; Backup software; Password managers
 unsecured-credentials; passwords
 T1552.001; T1552.002; T1552.004; T1552.006
 ~Adversaries search for credentials stored in:
 1. Configuration files (web.config, unattend.xml)
 2. Registry keys (VNC, PuTTY, WinSCP)
 3. Browser password stores
 4. Scripts and automation files
 5. Cloud metadata services
 ~Review processes accessing sensitive file locations
 Check for registry queries to known credential stores
 Analyze command lines for credential searching patterns
 Review file access to common credential storage locations
 Check for access to cloud metadata endpoints" r#"
 # Searching for Passwords in Files
 ~run
 | search ~cmd="*findstr*password*" OR ~cmd="*findstr*/s*pass*" OR \
 ~cmd="*dir*/s*password*" OR ~cmd="*select-string*password*"
 ~by Image, ~cmd, User, Computer

 # Registry Credential Store Access
 ~sysmon 13
 | search TargetObject="*\SOFTWARE\SimonTatham\PuTTY\Sessions*" OR \
 TargetObject="*\SOFTWARE\Martin Prikryl\WinSCP*" OR TargetObject="*\SOFTWARE\RealVNC*"
 ~by Image, TargetObject, Computer"# "
 (~line:(*findstr* AND *password*) OR
 ~line:(*Select-String* AND *password*)) OR
 registry.path:(*PuTTY*Sessions* OR *WinSCP* OR *RealVNC*)"
  [detector "Searching for Credentials in Files"
    "f7890123-0123-789a-bcde-01237890123f" windowsProcesses r#"
 selection_findstr:
  ~image: '\findstr.exe'
  ~cmd~has; password; credential; secret
 selection_powershell:
  ~image; \powershell.exe; \pwsh.exe
  ~cmd~has: 'Select-String'
  ~cmd~has; password; credential
 condition: selection_findstr or selection_powershell"#],

  draft "
 T1018-remote-system-discovery; discovery; medium
 Remote System Discovery
 attempts to discover remote systems on the network
 Process Creation; Network Traffic; Command Line
 System administrators; Monitoring tools; Inventory software
 network; reconnaissance; lateral-movement-prep
 ~Adversaries enumerate remote systems to identify targets for lateral movement:
 1. net view, net group commands
 2. nltest /dclist
 3. ping sweeps
 4. PowerShell AD module queries
 5. arp cache enumeration
 ~Review the user context performing discovery
 Check for subsequent lateral movement attempts
 Analyze scope of discovery (single host vs network-wide)
 Correlate with authentication events
 Review time of discovery activity" r#"
 ~run
 | search ~cmd="*net view*" OR ~cmd="*net group*Domain*" OR \
 ~cmd="*nltest*/dclist*" OR ~cmd="*Get-ADComputer*" OR ~cmd="*dsquery computer*"
 ~count values(~cmd) as commands by User, Computer
 ? count > 3"# r#"
 ~line:(*net\ view* OR *net\ group*domain* OR *nltest*dclist* OR \
 *Get-ADComputer* OR *dsquery\ computer*)"#
  [detector "Remote System Discovery Commands"
    "08901234-1234-89ab-cdef-12348901234a" windowsProcesses r#"
 selection_net:
  ~image: '\net.exe'
  ~cmd~has;  view;  group 
 selection_nltest:
  ~image: '\nltest.exe'
  ~cmd~has: '/dclist'
 selection_powershell:
  ~cmd~has: 'Get-ADComputer'
 condition: selection_net or selection_nltest or selection_powershell"#],

  draft "
 T1570-lateral-tool-transfer; lateral-movement; high
 Lateral Tool Transfer
 transfer of tools and payloads between systems for lateral movement
 Network Traffic; File Creation; SMB Logs
 Software deployment; System administration; Backup operations
 tool-transfer; smb; psexec
 ~Adversaries transfer tools between compromised systems:
 1. PsExec and similar tools via SMB
 2. certutil, bitsadmin for file downloads
 3. PowerShell remoting file transfers
 4. SMB file copies between workstations
 5. Admin share access patterns
 ~Identify source and destination systems
 Analyze transferred file types and names
 Check for execution of transferred files
 Review authentication events around transfer time
 Look for tool staging directories" r#"
 # SMB File Transfer Detection
 ~sysmon 11
 | search ~file="*\ADMIN$\*" OR ~file="*\C$\*" OR ~file="*\IPC$\*"
 ~rex ~file "(?<filename>[^\\]+)$"
 ? match(filename, "(?i)\.(exe|dll|ps1|bat|vbs)$")
 ~count values(~file) as files by Computer, Image

 # PsExec Service Installation
 index=wineventlog source="WinEventLog:System" ~id=7045
 | search ServiceName="PSEXESVC" OR ImagePath="*PSEXESVC*" OR ServiceName IN ("csexec", \
 "remcom", "paexec")
 ~by ServiceName, ImagePath, Computer"# "
 (winlog.event_id:11 AND file.path:(*ADMIN$* OR *C$*) AND
 file.extension:(exe OR dll OR ps1 OR bat)) OR
 (winlog.event_id:7045 AND ~data.ServiceName:(PSEXESVC OR csexec OR remcom))"
  [detector "Suspicious File Written to Admin Share"
    "19012345-2345-9abc-def0-23459012345b" ["product: windows", "category: file_event"] r#"
  TargetFilename~has; \ADMIN$\; \C$\; \IPC$\
  TargetFilename|endswith; .exe; .dll; .ps1; .bat"#],

  draft "
 T1119-automated-collection; collection; medium
 Automated Collection
 automated collection of data from local and network sources
 Process Creation; File Access; Command Line
 Backup software; File indexing services; E-discovery tools
 automation; data-theft
 ~Adversaries automate data collection using:
 1. Scripts to recursively find sensitive files
 2. Tools that search for specific file types
 3. Automated clipboard capture
 4. Keyloggers and input capture
 5. Batch file operations on multiple directories
 ~Identify the collection mechanism (script, tool, malware)
 Determine scope of collected data
 Review file access patterns
 Check for staging directories
 Look for subsequent exfiltration" r#"
 # Automated File Collection
 ~run
 | search ~cmd="*dir*/s*" OR ~cmd="*forfiles*" OR ~cmd="*Get-ChildItem*-Recurse*"
 ? match(~cmd, "(?i)\.(doc|xls|pdf|ppt|txt|csv)")
 ~count values(~cmd) as commands by User, Computer
 ? count > 5"# "
 (~line:(*dir*/s* OR *forfiles* OR *Get-ChildItem*Recurse*) AND
 ~line:(*.doc* OR *.xls* OR *.pdf* OR *.ppt*))"
  [detector "Automated File Collection Using Command Line"
    "2a123456-3456-abcd-ef01-3456a123456c" windowsProcesses r#"
 selection_dir:
  ~image: '\cmd.exe'
  ~cmd~has|all; dir; /s
  ~cmd~has; .doc; .xls; .pdf
 selection_powershell:
  ~cmd~has: 'Get-ChildItem'
  ~cmd~has: '-Recurse'
 condition: selection_dir or selection_powershell"#],

  draft "
 T1102-web-service-c2; command-and-control; high
 Web Service C2
 use of legitimate web services for command and control
 Network Traffic; Proxy Logs; DNS Logs
 Legitimate use of cloud services; Developer tools; Collaboration platforms
 c2; web-service; covert
 T1102.002; T1102.003
 ~Adversaries use legitimate web services for C2 to blend with normal traffic:
 1. Pastebin, GitHub, Dropbox for C2 instructions
 2. Twitter, Telegram APIs for commands
 3. Google Docs/Sheets for data exchange
 4. Discord/Slack webhooks
 5. Cloud storage services
 ~Analyze frequency and pattern of connections
 Review user-agent strings and request headers
 Check for encoded or encrypted payloads
 Correlate with endpoint process activity
 Identify automated vs human-initiated traffic" r#"
 # Suspicious API/Webhook Usage
 index=proxy
 ? match(url, \
 "(?i)(api\.telegram|discord\.com/api/webhooks|api\.github|pastebin\.com/raw|hastebin)")
 ~count dc(dest_port) as ports by src_ip, url, user
 ? count > 10 OR ports > 2

 # Cloud Storage C2 Patterns
 index=proxy
 ? match(url, "(?i)(dropbox\.com|drive\.google|onedrive|api\.box)")
 | bucket _time span=1h
 ~by _time, src_ip, url
 ? count > 50"# "
 url.full:(*api.telegram* OR *discord.com/api/webhooks* OR *pastebin.com/raw* OR \\
 *api.github.com/gists*)"
  [detector "Potential C2 via Web Service API"
    "3b234567-4567-bcde-f012-4567b234567d" ["category: proxy"] "
  c-uri~has:
   - 'api.telegram.org'
   - 'discord.com/api/webhooks'
   - 'pastebin.com/raw'
   - 'api.github.com/gists'
 condition: selection | count() by c-ip > 10"],

  draft "
 T1041-exfil-c2-channel; exfiltration; critical
 Exfiltration Over C2 Channel
 data exfiltration over the existing command and control channel
 Network Traffic; Process Monitoring; Netflow
 Cloud backup services; File sync applications; Large email attachments
 c2; data-theft; critical
 ~Adversaries exfiltrate data through the same channel used for C2:
 1. Large HTTP POST requests to suspicious domains
 2. Encrypted data in DNS TXT records
 3. Chunked data transfer patterns
 4. Unusual outbound data volumes
 5. Base64 encoded data in HTTP headers
 ~Analyze network traffic volume anomalies
 Review HTTP request/response sizes
 Check for encoded data in unusual fields
 Correlate with known C2 infrastructure
 Identify data types being exfiltrated" r#"
 # Large Outbound Data Transfer
 index=network OR index=firewall
 ? bytes_out > 10000000 AND dest_port IN (80, 443, 8080)
 | stats sum(bytes_out) as total_bytes dc(dest_ip) as unique_dests by src_ip
 ? total_bytes > 100000000 OR unique_dests > 20

 # Chunked Transfer Pattern
 index=proxy
 | bucket _time span=5m
 ~count sum(bytes_out) as total_bytes by _time, src_ip, url
 ? count > 20 AND total_bytes > 5000000"# "
 network.bytes_out:>10000000 AND destination.port:(80 OR 443 OR 8080)
 | stats sum(network.bytes_out) by source.ip, destination.ip
 ? sum > 100000000"
  [detector "Large Data Exfiltration Over Common Ports"
    "4c345678-5678-cdef-0123-5678c345678e" ["category: firewall"] "
  dest_port:
   - 80
   - 443
   - 8080
 filter:
  bytes_out|gt: 50000000
 condition: selection and filter"]]

end Huntbook.Starter
