import Huntbook.Starter.Draft

/-!
# Gaining entry and a foothold

Playbooks for the tactics of reconnaissance, initial access, execution, persistence and privilege
escalation.
-/

namespace Huntbook.Starter

def intrusion : List Draft := [draft "
 T1592-gather-victim-host-info; reconnaissance; low
 Gather Victim Host Information
 attempts to gather information about victim hosts through various reconnaissance methods
 Web Server Logs; DNS Logs; Network Traffic
 Web analytics services; Legitimate marketing tools; Browser compatibility testing
 fingerprinting; osint; external
 T1592.001; T1592.002; T1592.004
 ~Adversaries gather host information to identify potential targets and vulnerabilities.
 This includes:
 1. Browser fingerprinting via JavaScript
 2. OS/browser detection through HTTP headers
 3. Technology stack enumeration
 4. Email header analysis for mail server info
 ~Review source IPs accessing multiple unique endpoints
 Check for unusual User-Agent patterns
 Analyze request patterns for fingerprinting behavior
 Correlate with known threat actor infrastructure" r#"
 index=web ~type=access_combined
 ~rex _raw "(?<fingerprint_js>fingerprint|canvas|webgl|audio|font)"
 ? isnotnull(fingerprint_js)
 ~count dc(uri) as unique_paths by src_ip, useragent
 ? count > 20"# "
 url.path:(*fingerprint* OR *canvas* OR *webgl*) OR
 user_agent.original:(*bot* OR *crawler* OR *spider*)
 ~count() by source.ip
 ? count > 20"
  [detector "Browser Fingerprinting Detection"
    "f1234567-abcd-1234-5678-abcdef123456" ["category: webserver"] "
  cs-uri-stem~has; fingerprint; canvas; webgl"],

  draft r"
 T1190-exploit-public-facing; initial-access; critical
 Exploit Public-Facing Application
 exploitation attempts against public-facing applications including web servers, VPNs, and exposed \
 services
 Web Application Firewall; IDS/IPS; Application Logs; Web Server Logs
 Vulnerability scanners; Penetration testing; WAF false positives
 exploit; web; rce; sqli; critical
 ~Adversaries exploit vulnerabilities in internet-facing applications for initial access.
 Common targets include:
 1. SQL Injection attacks
 2. Remote Code Execution (RCE) attempts
 3. Path traversal attacks
 4. Log4j/Spring4Shell type exploits
 5. Authentication bypass attempts
 ~Identify specific CVE or vulnerability being exploited
 Check if exploit was successful (response codes, subsequent connections)
 Review application logs for post-exploitation activity
 Identify affected systems and scope of compromise
 Check for webshell uploads or backdoor creation" "
 # SQL Injection Detection
 index=web ~type=access_combined
 ~rex uri \\
 \"(?<sqli_pattern>union.*select|select.*from|insert.*into|delete.*from|drop.*table|1=1|or.*1.*=.*1|'.*or.*'|--.*$)\"
 ? isnotnull(sqli_pattern)
 ~count values(uri) as attack_uris by src_ip, dest
 ? count > 5

 # Log4j/JNDI Exploitation
 index=web OR index=application
 ~rex _raw \"(?<jndi_attack>\\$\\\x7bjndi:(ldap|rmi|dns|iiop)://)\"
 ? isnotnull(jndi_attack)
 ~count values(_raw) as payloads by src_ip

 # Path Traversal Detection
 index=web ~type=access_combined
 ~rex uri \"(?<traversal>\\.\\./|\\.\\.\\\\/|%2e%2e%2f|%252e%252e%252f)\"
 ? isnotnull(traversal)
 ~by src_ip, uri" "
 // SQL Injection patterns
 url.query:(*UNION* AND *SELECT*) OR
 url.query:(*OR* AND *1=1*) OR
 url.query:(*'* AND *--*)

 // Log4Shell/JNDI
 message:*$\x7bjndi:* OR url.query:*$\x7bjndi:* OR user_agent.original:*$\x7bjndi:*

 // Path Traversal
 url.path:(*../* OR *..\\\\* OR *%2e%2e%2f*)

 // RCE indicators
 url.query:(*cmd=* OR *exec=* OR *system(* OR *passthru(* OR *shell_exec(*)"
  [detector "SQL Injection Attack Detection"
    "a1234567-abcd-5678-1234-sqlidetect001" ["category: webserver"] r#"
 selection_sqli:
  cs-uri-query~has:
   - 'UNION SELECT'
   - 'OR 1=1'
   - "' OR '"
   - '-- -'
   - 'DROP TABLE'
   - 'INSERT INTO'"# (some "high"),
    detector "Log4Shell JNDI Exploitation Attempt"
    "b1234567-log4-shell-detect-001" ["category: webserver"] "
 selection_jndi:
  - cs-uri-query~has: '$\x7bjndi:'
  - cs-User-Agent~has: '$\x7bjndi:'
  - cs-Referer~has: '$\x7bjndi:'" none ["attack.initial_access", "attack.t1190", "cve.2021.44228"]],

  draft r"
 T1078-valid-accounts; initial-access; high
 Valid Accounts Abuse
 abuse of valid credentials including default credentials, leaked credentials, and compromised \
 accounts
 Authentication Logs; ~events; Cloud Audit Logs; VPN Logs
 Users traveling; VPN usage; Shared accounts (should be eliminated)
 credentials; authentication; brute-force
 T1078.001; T1078.002; T1078.003; T1078.004
 ~Adversaries use valid credentials obtained through various means:
 1. Default/unchanged credentials
 2. Credentials from data breaches
 3. Credential stuffing attacks
 4. Password spraying
 5. Purchased credentials from dark web
 ~Check if source IP is known/expected for user
 Review authentication times - unusual hours?
 Check for concurrent sessions from different locations
 Review what actions were taken after authentication
 Check user's recent credential changes" r#"
 # Impossible Travel Detection
 index=auth ~type=windows:security ~id=4624 LogonType=10
 | iplocation src_ip
 | stats earliest(_time) as first_login latest(_time) as last_login values(City) as cities \
 values(Country) as countries dc(src_ip) as unique_ips by user
 ? unique_ips > 1
 | eval time_diff_hours = (last_login - first_login) / 3600
 ? time_diff_hours < 2 AND mvcount(countries) > 1

 # Password Spraying Detection
 index=auth (~type=windows:security ~id=4625) OR (~type=linux:auth "Failed \
 password")
 ~bin 10m
 | stats dc(user) as unique_users count as total_failures by src_ip, _time
 ? unique_users > 10 AND total_failures > 20

 # Off-Hours Authentication
 index=auth ~type=windows:security ~id=4624 LogonType IN (2,10)
 | eval hour=strftime(_time, "%H")
 | eval day=strftime(_time, "%A")
 ? (hour < 6 OR hour > 22) OR day IN ("Saturday", "Sunday")
 ~by user, src_ip, hour, day

 # Default Credentials Usage
 index=auth (user=admin OR user=administrator OR user=root OR user=guest OR user=default)
 ~by user, src_ip, dest, action
 ? action="success" "# "
 // Impossible travel - multiple countries in short time
 event.category:authentication AND event.action:success
 ~count(), cardinality(source.geo.country_name) as countries, cardinality(source.ip) as \\
 unique_ips by user.name
 ? countries > 1 and unique_ips > 1

 // Password spraying pattern
 event.category:authentication AND event.outcome:failure
 ~count() as failures, cardinality(user.name) as unique_users by source.ip
 ? failures > 20 and unique_users > 10

 // Off-hours authentication
 event.category:authentication AND event.outcome:success
 | eval hour = date_hour(@timestamp)
 ? hour < 6 or hour > 22"
  [detector "Password Spraying Attack Detection"
    "c1234567-pass-spray-detect-001" securityEvents "
  EventID: 4625
 filter:
  - Status: '0xC000006D'  # Wrong password
 timeframe: 10m
 condition: selection and not filter | count(~target) by ~ip > 10"
    none ["attack.initial_access", "attack.t1078", "attack.credential_access", "attack.t1110.003"]],

  draft "
 T1133-external-remote-services; initial-access; high
 External Remote Services Abuse
 abuse of external remote services like VPN, RDP, Citrix, and SSH for initial access
 VPN Logs; ~events; SSH Logs; Citrix Logs
 Remote workers; Third-party vendors; IT support
 remote-access; vpn; rdp; ssh
 ~Adversaries abuse legitimate remote access services:
 1. VPN connections from unusual locations
 2. RDP brute force and successful access
 3. SSH access from unexpected sources
 4. Citrix/Remote Desktop Gateway abuse
 ~Verify source IP reputation and geolocation
 Check if MFA was used/bypassed
 Review post-connection activity
 Check for lateral movement after access" r#"
 # VPN Connection Anomaly
 index=vpn ~type=cisco:vpn OR ~type=paloalto:globalprotect
 | iplocation src_ip
 ~by user, Country, src_ip
 | eventstats dc(Country) as country_count by user
 ? country_count > 2

 # RDP Brute Force Success
 ~security 4625 LogonType=10
 ~bin 15m
 ~count as failures by src_ip, dest, user
 ? failures > 10
 | join src_ip, dest [search index=windows ~id=4624 LogonType=10 ~count as \
 successes by src_ip, dest, user]
 ? successes > 0

 # SSH Unusual Access
 index=linux ~type=linux:auth "Accepted"
 | rex "Accepted (?<auth_method>\w+) for (?<user>\w+) from (?<src_ip>[\d\.]+)"
 | iplocation src_ip
 ? Country != "Italy" AND Country != "Expected Country"
 ~by user, src_ip, Country"# "
 // VPN from multiple countries
 event.dataset:*vpn* AND event.action:success
 | stats cardinality(source.geo.country_name) as countries by user.name
 ? countries > 2

 // RDP brute force followed by success
 ~code:4625 AND winlog.logon.type:RemoteInteractive
 ~count() as failures by source.ip
 ? failures > 10

 // SSH from unusual locations
 event.category:authentication AND process.name:sshd AND event.outcome:success AND
 NOT source.geo.country_iso_code:IT"
  [detector "RDP Brute Force Attempt" "d1234567-rdp-brute-detect-001" securityEvents "
  EventID: 4625
  LogonType: 10
 timeframe: 15m
 condition: selection | count(~ip) by ~target > 10"
    none ["attack.initial_access", "attack.t1133", "attack.t1110"]],

  draft "
 T1059.003-windows-command-shell; execution; high
 Windows Command Shell Abuse
 malicious use of cmd.exe including encoded commands, suspicious parent processes, and obfuscation
 ~events; Sysmon; EDR
 Admin scripts; Software installations; Legitimate automation
 cmd; windows; command-line
 ~Adversaries abuse cmd.exe for:
 1. Executing encoded/obfuscated commands
 2. Running reconnaissance commands
 3. Download and execute payloads
 4. Persistence mechanisms
 ~Review parent process - is it suspicious?
 Decode any encoded commands
 Check for network connections from cmd process
 Review subsequent child processes" r#"
 # Suspicious CMD Parent Process
 ~run Image="*\cmd.exe"
 ~rex ParentImage "(?<parent_name>[^\\]+)$"
 ? parent_name IN ("outlook.exe", "winword.exe", "excel.exe", "powerpnt.exe", \
 "wmiprvse.exe", "mshta.exe", "wscript.exe", "cscript.exe")
 ~users ParentImage, ~cmd

 # CMD Reconnaissance Commands
 ~run Image="*\cmd.exe"
 ~rex ~cmd "(?<recon_cmd>whoami|net user|net \
 group|ipconfig|systeminfo|tasklist|qprocess|query user|net localgroup|net share)"
 ? isnotnull(recon_cmd)
 ~count values(recon_cmd) as commands by ComputerName, User, ParentImage

 # CMD Download Cradles
 ~run Image="*\cmd.exe"
 ? ~like "%curl~or wget~or certutil~or bitsadmin%"
 ~users ~cmd"# "
 // CMD with suspicious parent
 ~process:cmd.exe AND
 process.parent.name:(outlook.exe OR winword.exe OR excel.exe OR powerpnt.exe OR wmiprvse.exe \\
 OR mshta.exe)

 // Reconnaissance via CMD
 ~process:cmd.exe AND
 ~line:(*whoami* OR *net user* OR *net group* OR *ipconfig* OR *systeminfo* OR *tasklist*)

 // Download via CMD
 ~process:cmd.exe AND
 ~line:(*curl* OR *wget* OR *certutil* OR *bitsadmin* OR *Invoke-WebRequest*)"
  [detector "Suspicious CMD Parent Process"
    "e1234567-cmd-parent-detect-001" processEvents r#"
  ~image: '\cmd.exe'
 suspicious_parent:
  Parent~image:
   - '\outlook.exe'
   - '\winword.exe'
   - '\excel.exe'
   - '\powerpnt.exe'
   - '\wmiprvse.exe'
   - '\mshta.exe'"#],

  draft r"
 T1059.001-powershell; execution; high
 Malicious PowerShell Execution
 malicious PowerShell usage including encoded commands, download cradles, AMSI bypass, and \
 obfuscation
 Windows PowerShell Logs; Sysmon; ~events
 System administration; SCCM/MECM; DSC configurations
 powershell; windows; lolbas; encoding
 ~PowerShell is heavily abused by adversaries for:
 1. Encoded command execution (-enc, -e)
 2. Download and execute cradles (IEX, Invoke-Expression)
 3. AMSI bypass techniques
 4. Constrained Language Mode bypass
 5. Living-off-the-land techniques
 ~Decode Base64 encoded commands
 Check for network connections from PowerShell
 Review downloaded files and execution
 Check for persistence mechanisms created
 Look for credential access attempts" r#"
 # Encoded PowerShell Commands
 ~run ~shells
 ? ~like "%-e ~or -enc ~or -encodedcommand %"
 ~rex ~cmd "(?:-e|-enc|-encodedcommand)\s+(?<encoded_cmd>[A-Za-z0-9+/=]+)"
 | eval decoded = base64decode(encoded_cmd)
 ~users ~cmd, decoded

 # PowerShell Download Cradles
 ~run ~shells
 ? ~like "%IEX~or Invoke-Expression%" OR ~like \
 "%DownloadString~or Net.WebClient~or Start-BitsTransfer%"
 ~users ~cmd, ParentImage

 # AMSI Bypass Attempts
 ~run ~shells
 ? ~like "%amsi~or AmsiUtils~or amsiInitFailed%"
 ~users ~cmd

 # Suspicious PowerShell from Office
 ~run ~shells
 ~rex ParentImage "(?<parent>[^\\]+)$"
 ? parent IN ("winword.exe", "excel.exe", "outlook.exe", "powerpnt.exe")
 ~users ParentImage, ~cmd"# "
 // Encoded PowerShell
 ~process:~pwsh AND
 ~line:(*-enc* OR *-e * OR *-encodedcommand*)

 // Download cradles
 ~process:~pwsh AND
 ~line:(*IEX* OR *Invoke-Expression* OR *DownloadString* OR *Net.WebClient* OR *Start-BitsTransfer*)

 // AMSI bypass
 ~process:~pwsh AND
 ~line:(*amsi* OR *AmsiUtils* OR *amsiInitFailed*)

 // Office spawning PowerShell
 ~process:~pwsh AND
 process.parent.name:(winword.exe OR excel.exe OR outlook.exe OR powerpnt.exe)"
  [detector "Encoded PowerShell Command" "f1234567-ps-encoded-detect-001" processEvents r#"
  ~image; \powershell.exe; \pwsh.exe
 encoded_flags:
  ~cmd~has; -e ; -enc ; -encodedcommand ; -EncodedCommand "#,
    detector "PowerShell Download Cradle" "f2234567-ps-cradle-detect-001" processEvents r#"
  ~image; \powershell.exe; \pwsh.exe
 download_indicators:
  ~cmd~has:
   - 'IEX'
   - 'Invoke-Expression'
   - 'DownloadString'
   - 'Net.WebClient'
   - 'Start-BitsTransfer'
   - 'Invoke-WebRequest'
   - 'iwr '"#],

  draft "
 T1204.001-malicious-link; execution; high
 Malicious Link User Execution
 user execution of malicious links leading to payload download or credential theft
 Web Proxy Logs; DNS Logs; Email Gateway; EDR
 Legitimate shortened URLs; Marketing campaigns; New legitimate domains
 user-execution; phishing; malicious-link
 ~Users clicking malicious links leads to:
 1. Drive-by download of malware
 2. Credential harvesting pages
 3. OAuth consent phishing
 4. Browser exploitation
 ~Check URL reputation on VirusTotal, URLhaus
 Analyze page content if captured
 Check for subsequent downloads
 Review user's credentials for compromise" r#"
 # Clicks to Recently Registered Domains
 ~proxy
 ~rex url "https?://(?<domain>[^/]+)"
 | lookup domain_age domain OUTPUT registration_date
 | eval domain_age_days = (now() - strptime(registration_date, "%Y-%m-%d")) / 86400
 ? domain_age_days < 30
 ~by src_ip, user, domain, domain_age_days

 # URL Shortener to Suspicious Destination
 ~proxy
 ? url LIKE "%bit.ly~url tinyurl~url t.co~url goo.gl%"
 ~rex final_url "https?://(?<final_domain>[^/]+)"
 | lookup threat_intel domain as final_domain OUTPUT threat_score
 ? threat_score > 50
 ~by src_ip, user, url, final_domain, threat_score

 # Potential Credential Harvesting Page Access
 ~proxy
 ? (url LIKE "%login~url signin~url password%") AND category="uncategorized"
 ~rex url "https?://(?<domain>[^/]+)"
 ? NOT cidrmatch("10.0.0.0/8", domain) AND NOT domain LIKE "%microsoft%" AND NOT domain \
 LIKE "%google%"
 ~count values(url) as urls by src_ip, user, domain"# "
 // Recently registered domain access
 destination.domain:* AND NOT destination.domain:*.local
 ? domain_registration_date > now() - 30d

 // URL shortener redirect analysis
 url.original:(*bit.ly* OR *tinyurl.com* OR *t.co* OR *goo.gl*)

 // Potential credential phishing page
 url.path:(*login* OR *signin* OR *password* OR *auth*) AND
 NOT destination.domain:(*microsoft.com OR *google.com OR *okta.com)"
  [detector "Access to Newly Registered Domain"
    "g1234567-new-domain-detect-001" ["category: proxy"] "
  c-uri~has: 'http'
 # Requires enrichment with domain age" (some "medium")],

  draft "
 T1047-wmi; execution; high
 WMI Execution
 Windows Management Instrumentation abuse for code execution, reconnaissance, and lateral movement
 Sysmon; ~events; WMI Trace Logs
 SCCM/MECM; Monitoring tools; Admin scripts
 wmi; windows; lateral-movement
 ~WMI is abused for:
 1. Remote process execution via wmic or WMI classes
 2. Event subscription persistence
 3. System reconnaissance
 4. Lateral movement across network
 ~Check WMI consumer-filter-binding for persistence
 Review remote WMI execution sources
 Check for reconnaissance queries
 Analyze spawned processes from wmiprvse.exe" r#"
 # WMI Remote Process Execution
 ~run ParentImage="*\wmiprvse.exe"
 ? Image!="*\WmiPrvSE.exe"
 ~count values(Image) as spawned_processes by ComputerName, User, ~cmd

 # WMIC Process Call Create
 ~run Image="*\wmic.exe"
 ? ~like "%process%call%create%"
 ~rex ~cmd "create\s+(?<executed_command>.+)"
 ~users ~cmd, executed_command

 # WMI Event Subscription (Persistence)
 index=sysmon (~id=19 OR ~id=20 OR ~id=21)
 ~table EventType, Operation, User, Consumer, Filter

 # Remote WMI Connections
 ~security 4648
 ? TargetServerName!="localhost" AND ProcessName="*\wmiprvse.exe"
 ~by TargetServerName, ~target, ~ip"# "
 // Process spawned by WMI
 ~code:1 AND process.parent.name:WmiPrvSE.exe AND
 NOT process.name:WmiPrvSE.exe

 // WMIC process creation
 ~process:wmic.exe AND
 ~line:(*process* AND *call* AND *create*)

 // WMI Event Subscription
 ~code:(19 OR 20 OR 21)"
  [detector "Process Created via WMI" "h1234567-wmi-exec-detect-001" processEvents r#"
  Parent~image: '\WmiPrvSE.exe'
 filter:
  ~image: '\WmiPrvSE.exe'"#],

  draft "
 T1053.005-scheduled-task; persistence; high
 Malicious Scheduled Task
 creation of scheduled tasks for persistence including hidden tasks and encoded payloads
 ~events; Sysmon; Task Scheduler Logs
 Software installations; Windows updates; IT management tools
 scheduled-task; windows
 ~Adversaries create scheduled tasks for:
 1. Execution at specific times
 2. Persistence across reboots
 3. Running with elevated privileges
 4. Triggering on specific events
 ~Review task actions and triggers
 Check task creation context (user, process)
 Analyze encoded or obfuscated commands
 Verify task is not legitimate software" r#"
 # Scheduled Task Creation
 ~run (Image="*\schtasks.exe")
 ? ~like "%/create%"
 ~rex ~cmd "/tn\s+(?<task_name>[^\s/]+)"
 ~rex ~cmd "/tr\s+(?<task_command>.+?)(?:/|$)"
 ~users task_name, task_command, ~cmd

 # Suspicious Task Locations
 ~run (Image="*\schtasks.exe") ~cmd="*/create*"
 ? ~like "%\AppData\~or \Temp\~or \ProgramData\%"
 ~users ~cmd

 # Encoded Commands in Scheduled Tasks
 ~run (Image="*\schtasks.exe")
 ? ~like "%-enc~or base64~or FromBase64String%"
 ~users ~cmd

 # Task Scheduler Event Log
 ~winlog:Microsoft-Windows-TaskScheduler/Operational ~id=106
 ~show TaskName, UserContext"# r#"
 // Scheduled task creation
 ~process:schtasks.exe AND ~line:*/create*

 // Suspicious task executable paths
 ~process:schtasks.exe AND
 ~line:(*\AppData\* OR *\Temp\* OR *\ProgramData\*)

 // Encoded payloads in tasks
 ~process:schtasks.exe AND
 ~line:(*-enc* OR *base64* OR *FromBase64String*)

 // Task Scheduler events
 ~code:106 AND winlog.channel:"Microsoft-Windows-TaskScheduler/Operational" "#
  [detector "Scheduled Task Creation" "i1234567-schtask-create-001" processEvents r#"
  ~image: '\schtasks.exe'
  ~cmd~has: '/create'
 suspicious_paths:
  ~cmd~has; \AppData\; \Temp\; \ProgramData\; powershell; cmd.exe"# (some "medium")],

  draft r#"
 T1547.001-registry-run-keys; persistence; high
 Registry Run Key Persistence
 persistence via Registry Run keys including HKLM and HKCU autostart locations
 Sysmon; ~events; EDR
 Software installations; Legitimate applications; User preferences
 registry; run-keys; windows
 ~Run keys provide simple persistence:
 1. HKLM\Software\Microsoft\Windows\CurrentVersion\Run
 2. HKCU\Software\Microsoft\Windows\CurrentVersion\Run
 3. RunOnce variants
 4. Explorer\Shell Folders
 ~Identify what executable is set to run
 Check file reputation and signature
 Review process that made the registry change
 Check for similar changes across environment"# r#"
 # Registry Run Key Modifications
 ~sysmon 13
 ? TargetObject LIKE "%\CurrentVersion\Run%" OR TargetObject LIKE "%\CurrentVersion\RunOnce%"
 ~users Image, TargetObject, Details

 # Run Key Set via reg.exe
 ~run Image="*\reg.exe"
 ? ~like "%CurrentVersion\Run%"
 ~users ~cmd, ParentImage

 # Suspicious Run Key Values
 ~sysmon 13
 ? TargetObject LIKE "%\CurrentVersion\Run%"
 ~rex Details "(?<run_path>.+)"
 ? run_path LIKE "%\Temp\%" OR run_path LIKE "%\AppData\%" OR run_path LIKE "%.ps1%" OR \
 run_path LIKE "%powershell%"
 ~users TargetObject, Details"# r#"
 // Registry Run key modification
 ~code:13 AND
 registry.path:(*\CurrentVersion\Run* OR *\CurrentVersion\RunOnce*)

 // Reg.exe modifying Run keys
 ~process:reg.exe AND
 ~line:*CurrentVersion\Run*

 // Suspicious Run key values
 ~code:13 AND registry.path:*\CurrentVersion\Run* AND
 registry.data.strings:(*\Temp\* OR *\AppData\* OR *.ps1* OR *powershell*)"#
  [detector "Registry Run Key Modification"
    "j1234567-runkey-detect-001" ["category: registry_set", "product: windows"] r#"
  TargetObject~has; \CurrentVersion\Run; \CurrentVersion\RunOnce
 suspicious_values:
  Details~has; \Temp\; \AppData\; .ps1; powershell; cmd.exe; mshta; wscript; cscript"# (some "medium")],

  { draft "
 T1543.003-windows-service; persistence; high
 Malicious Windows Service Creation
 creation of Windows services for persistence and privilege escalation
 ~events; Sysmon; System Event Log
 Software installations; IT deployments; Monitoring agents
 service; windows; privilege-escalation
 ~Adversaries create services for:
 1. Persistence with automatic start
 2. Running as SYSTEM
 3. Surviving reboots
 4. Hiding in plain sight among legitimate services
 ~Review service binary path and legitimacy
 Check service creation context
 Verify digital signature of binary
 Compare with baseline of expected services" r#"
 # New Service Installation
 ~winlog:System ~id=7045
 ~table ServiceName, ImagePath, ServiceType, StartType, AccountName

 # Service Created via sc.exe
 ~run Image="*\sc.exe"
 ? ~like "%create%"
 ~rex ~cmd "binPath=\s*(?<service_path>[^\s]+)"
 ~users ~cmd, service_path

 # Suspicious Service Paths
 ~winlog:System ~id=7045
 ? ImagePath LIKE "%\Temp\%" OR ImagePath LIKE "%\AppData\%" OR ImagePath LIKE "%.ps1%" \
 OR ImagePath LIKE "%cmd /c%"
 ~table ServiceName, ImagePath

 # Services Set to Run as SYSTEM
 ~winlog:System ~id=7045
 ? AccountName="LocalSystem" OR AccountName="NT AUTHORITY\SYSTEM"
 ~table ServiceName, ImagePath, AccountName"# r#"
 // New service installed
 ~code:7045 AND winlog.channel:System

 // Service creation via sc.exe
 ~process:sc.exe AND ~line:*create*

 // Suspicious service paths
 ~code:7045 AND (
     ~data.ImagePath:(*\Temp\* OR *\AppData\* OR *.ps1* OR *cmd /c*)
 )"#
  [detector "New Windows Service Created"
    "k1234567-service-create-001" ["product: windows", "service: system"] r#"
  EventID: 7045
 suspicious_path:
  ImagePath~has; \Temp\; \AppData\; powershell; cmd /c; .ps1"# (some "medium")]
  with name := "Malicious Windows Service Creation" },

  draft r"
 T1068-exploitation-for-privilege-escalation; privilege-escalation; critical
 Exploitation for Privilege Escalation
 exploitation of vulnerabilities for privilege escalation including kernel exploits and service \
 exploits
 Sysmon; ~events; EDR; Crash Dumps
 Software bugs; Legitimate debugging; Development testing
 exploit; kernel; critical
 ~Privilege escalation exploits include:
 1. Kernel driver vulnerabilities
 2. Service binary hijacking
 3. DLL hijacking
 4. Token manipulation
 5. Vulnerable software exploitation
 ~Review crash dumps for exploitation artifacts
 Check for known exploit signatures in process memory
 Identify the vulnerability being exploited
 Check for post-exploitation activity" r#"
 # Suspicious Parent-Child with Privilege Elevation
 ~run
 ~rex User "(?<user_name>[^\\]+)$"
 ? (Image="*\cmd.exe" OR Image="*\powershell.exe") AND IntegrityLevel="High" AND \
 ParentIntegrityLevel="Medium"
 ~users Image, ParentImage, IntegrityLevel, ~cmd

 # Known Vulnerable Driver Loading
 ~sysmon 6
 | lookup vulnerable_drivers driver_name as ImageLoaded OUTPUT vulnerability_cve
 ? isnotnull(vulnerability_cve)
 ~table ImageLoaded, Signature, vulnerability_cve

 # Token Manipulation Detection
 ~security 4673
 ? ProcessName!="*\lsass.exe" AND PrivilegeList LIKE "%SeDebugPrivilege%"
 ~table SubjectUserName, ProcessName, PrivilegeList

 # UAC Bypass Indicators
 ~run
 ? IntegrityLevel="High" AND (ParentImage="*\eventvwr.exe" OR \
 ParentImage="*\fodhelper.exe" OR ParentImage="*\computerdefaults.exe")
 ~users Image, ParentImage, ~cmd"# "
 // Integrity level elevation
 ~code:1 AND ~data.IntegrityLevel:High AND
 ~data.ParentIntegrityLevel:Medium

 // Token manipulation
 ~code:4673 AND NOT process.name:lsass.exe AND
 ~data.PrivilegeList:*SeDebugPrivilege*

 // UAC bypass via auto-elevating processes
 ~code:1 AND process.parent.name:(eventvwr.exe OR fodhelper.exe OR computerdefaults.exe)"
  [detector "UAC Bypass Detection" "l1234567-uacbypass-detect-001" processEvents r#"
  IntegrityLevel: 'High'
  Parent~image; \eventvwr.exe; \fodhelper.exe; \computerdefaults.exe; \sdclt.exe"#
    (some "high") ["attack.privilege_escalation", "attack.t1548.002"]]]

end Huntbook.Starter
