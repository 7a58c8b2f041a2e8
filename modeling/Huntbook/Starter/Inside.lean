import Huntbook.Starter.Draft

/-!
# Inside a network

Playbooks for the tactics of defense evasion, credential access, discovery, lateral movement,
collection, command and control, exfiltration and impact.
-/

namespace Huntbook.Starter

def inside : List Draft := [draft "
 T1070.001-clear-windows-event-logs; defense-evasion; high
 Windows Event Log Clearing
 attempts to clear Windows Event Logs to hide malicious activity
 ~events; Sysmon; PowerShell Logs
 IT maintenance; Log rotation policies; Disk space issues
 log-clearing; windows
 ~Adversaries clear logs to:
 1. Remove evidence of compromise
 2. Hide lateral movement
 3. Cover persistence mechanisms
 4. Avoid detection by SOC
 ~Identify who cleared the logs
 Check for activity before log clearing
 Review other log sources for corroboration
 Assume compromise and hunt for other indicators" r#"
 # Event Log Cleared
 ~winlog:Security ~id=1102
 ~table SubjectUserName, SubjectDomainName

 # wevtutil Clear Log Command
 ~run Image="*\wevtutil.exe"
 ? ~like "%cl ~or clear-log%"
 ~users ~cmd

 # PowerShell Clear-EventLog
 ~run ~shells
 ? ~like "%Clear-EventLog~or Remove-EventLog%"
 ~users ~cmd

 # Multiple Log Sources Cleared
 ~winlog:System ~id=104
 ~by ComputerName
 ? count > 3"# "
 // Security log cleared
 ~code:1102

 // wevtutil clearing logs
 ~process:wevtutil.exe AND ~line:(*cl* OR *clear-log*)

 // PowerShell clearing logs
 ~process:~pwsh AND
 ~line:(*Clear-EventLog* OR *Remove-EventLog*)

 // System log cleared
 ~code:104 AND winlog.channel:System"
  [detector "Windows Event Log Cleared" "m1234567-logclear-detect-001" securityEvents "
  EventID: 1102"],

  draft "
 T1562.001-disable-security-tools; defense-evasion; critical
 Security Tools Disabled
 attempts to disable or tamper with security tools including AV, EDR, and firewalls
 ~events; Sysmon; EDR; Windows Defender Events
 IT maintenance; Software conflicts; Legitimate uninstalls
 security-tools; av-bypass; critical
 ~Adversaries disable security to:
 1. Allow malware execution
 2. Prevent detection
 3. Disable logging
 4. Remove evidence
 ~Verify if security tool was legitimately disabled
 Check what process disabled the tool
 Look for subsequent malicious activity
 Assume compromise if unauthorized" r#"
 # Windows Defender Disabled
 ~winlog:Microsoft-Windows-Windows*Defender* ~id=5001
 ~show ComputerName

 # Security Service Stopped
 ~winlog:System ~id=7036
 ? Message LIKE "%Windows Defender%" OR Message LIKE "%McAfee%" OR Message LIKE \
 "%Symantec%" OR Message LIKE "%CrowdStrike%" OR Message LIKE "%Carbon Black%" OR Message LIKE \
 "%SentinelOne%"
 ? Message LIKE "%stopped%"
 ~table Message

 # Firewall Disabled via netsh
 ~run Image="*\netsh.exe"
 ? ~like "%firewall%set%state%off~or advfirewall%set%state%off%"
 ~users ~cmd

 # Tamper Protection Disabled via Registry
 ~sysmon 13
 ? TargetObject LIKE "%Windows Defender%TamperProtection%" AND Details="DWORD (0x00000000)"
 ~users TargetObject"# "
 // Windows Defender disabled
 ~code:5001 AND winlog.provider_name:*Defender*

 // Security service stopped
 ~code:7036 AND message:*stopped* AND
 message:(*Defender* OR *McAfee* OR *Symantec* OR *CrowdStrike* OR *Carbon Black* OR *SentinelOne*)

 // Firewall disabled
 ~process:netsh.exe AND
 ~line:(*firewall* AND *off*)"
  [detector "Windows Defender Disabled"
    "n1234567-defender-disabled-001" ["product: windows", "service: windefend"] "
  EventID: 5001"],

  draft "
 T1027-obfuscated-files; defense-evasion; medium
 Obfuscated Files and Information
 use of obfuscation to hide malicious code including encoding, encryption, and packing
 Sysmon; PowerShell Logs; EDR
 Legitimate encoded data; DRM software; Compiled code
 obfuscation; encoding; packing
 T1027.001; T1027.002; T1027.003; T1027.004; T1027.005
 ~Obfuscation techniques include:
 1. Base64 encoding
 2. XOR encoding
 3. String concatenation
 4. Variable substitution
 5. Compression and packing
 ~Decode obfuscated content
 Analyze deobfuscated payload
 Check for known malware signatures
 Identify C2 addresses or IOCs" r#"
 # PowerShell Obfuscation Detection
 ~run ~shells
 | eval ~score=0
 | eval ~score=if(like(~cmd, "%`%"), ~score+1, ~score)
 | eval ~score=if(like(~cmd, "%+%+%"), ~score+1, ~score)
 | eval ~score=if(like(~cmd, "%$%$%$%"), ~score+1, ~score)
 | eval ~score=if(like(~cmd, "%-join%"), ~score+1, ~score)
 | eval ~score=if(like(~cmd, "%-replace%"), ~score+1, ~score)
 | eval ~score=if(like(~cmd, "%[char]%"), ~score+1, ~score)
 ? ~score >= 2
 ~users ~score, ~cmd

 # Certutil Encode/Decode
 ~run Image="*\certutil.exe"
 ? ~like "%-encode~or -decode~or -urlcache%"
 ~users ~cmd"# "
 // PowerShell obfuscation indicators
 ~process:~pwsh AND
 (~line:*`* OR ~line:*-join* OR
 ~line:*[char]* OR ~line:*-replace*)

 // Certutil encoding
 ~process:certutil.exe AND
 ~line:(*-encode* OR *-decode* OR *-urlcache*)"
  [detector "PowerShell Obfuscation Detection"
    "o1234567-obfuscation-detect-001" processEvents r#"
  ~image; \powershell.exe; \pwsh.exe
 obfuscation:
  ~cmd~has; `; -join; [char]; -replace; iex; invoke-expression"#],

  draft "
 T1003.001-lsass-memory-dump; credential-access; critical
 LSASS Memory Dumping
 attempts to dump LSASS memory for credential extraction using various tools and techniques
 Sysmon; ~events; EDR
 Legitimate memory dumps for debugging; AV/EDR scanning LSASS
 lsass; mimikatz; critical
 ~Credential dumping via LSASS:
 1. Mimikatz and variants
 2. ProcDump abuse
 3. Task Manager memory dump
 4. comsvcs.dll MiniDump
 5. Direct LSASS access
 ~Identify the process accessing LSASS
 Check for credential usage after dump
 Review authentication logs for compromised accounts
 Force password reset for potentially compromised accounts" r#"
 # LSASS Access
 ~sysmon 10 TargetImage="*\lsass.exe"
 ? GrantedAccess IN ("0x1010", "0x1410", "0x1438", "0x143a", "0x1fffff")
 ~table SourceImage, TargetImage, GrantedAccess, CallTrace

 # ProcDump on LSASS
 ~run Image="*\procdump*.exe"
 ? ~like "%lsass%"
 ~users ~cmd

 # comsvcs.dll MiniDump
 ~run
 ? ~like "%comsvcs%MiniDump%"
 ~users Image, ~cmd

 # Task Manager LSASS Dump
 ~sysmon 11
 ? ~file LIKE "%lsass%.dmp" OR ~file LIKE "%lsass%.dump"
 ~users Image, ~file"# "
 // LSASS Access with suspicious access rights
 ~code:10 AND ~data.TargetImage:*lsass.exe AND
 ~data.GrantedAccess:(0x1010 OR 0x1410 OR 0x143a OR 0x1fffff)

 // ProcDump on LSASS
 ~process:*procdump* AND ~line:*lsass*

 // comsvcs MiniDump
 ~code:1 AND ~line:*comsvcs*MiniDump*"
  [detector "LSASS Memory Access"
    "p1234567-lsass-access-001" ["category: process_access", "product: windows"] r#"
  Target~image: '\lsass.exe'
  GrantedAccess; 0x1010; 0x1410; 0x143a; 0x1438; 0x1fffff
 filter:
  Source~image; \MsMpEng.exe; \csrss.exe; \svchost.exe"#],

  draft "
 T1110.001-password-guessing; credential-access; high
 Password Guessing and Brute Force
 password guessing attacks against various authentication mechanisms
 ~events; Authentication Logs; VPN Logs; SSH Logs
 Forgotten passwords; Service account issues; Account lockouts
 brute-force; password; authentication
 ~Password attacks include:
 1. Brute force against single account
 2. Credential stuffing
 3. Dictionary attacks
 4. Reverse brute force
 ~Identify targeted accounts
 Check if any attempts were successful
 Block source IP if malicious
 Force password reset if compromised" r#"
 # Multiple Failed Logins Same Account
 ~security 4625
 ~bin 15m
 ~count as failures by ~target, ~ip, _time
 ? failures > 10
 ~show ~target, ~ip, failures

 # Multiple Failed Logins Same Source
 ~security 4625
 ~bin 15m
 | stats dc(~target) as unique_users count as total_failures by ~ip, _time
 ? unique_users > 5 AND total_failures > 10
 ~show ~ip, unique_users, total_failures

 # Failed Login Followed by Success
 index=windows ~type=windows:security (~id=4625 OR ~id=4624) LogonType IN (2, \
 3, 10)
 ~count(eval(~id=4625)) as failures count(eval(~id=4624)) as successes by \
 ~target, ~ip
 ? failures > 5 AND successes > 0
 | table ~target, ~ip, failures, successes

 # SSH Brute Force
 index=linux ~type=linux:auth "Failed password"
 ~bin 10m
 ~count as failures by src_ip, user, _time
 ? failures > 10"# "
 // Multiple failed logins same account
 ~code:4625
 ~count() as failures by user.name, source.ip
 ? failures > 10

 // Password spraying pattern
 ~code:4625
 | stats cardinality(user.name) as unique_users, count() as failures by source.ip
 ? unique_users > 5 and failures > 10

 // SSH brute force
 event.dataset:system.auth AND message:*Failed password*
 ~count() as failures by source.ip
 ? failures > 10"
  [detector "Multiple Failed Login Attempts" "q1234567-brute-force-001" securityEvents "
  EventID: 4625
 timeframe: 15m
 condition: selection | count(~target) by ~ip > 10"],

  draft "
 T1558.003-kerberoasting; credential-access; high
 Kerberoasting
 Kerberoasting attacks targeting service account Kerberos tickets
 ~events; Domain Controller Logs
 Legitimate service access; Service discovery tools; Administrative activity
 kerberoasting; kerberos; active-directory
 ~Kerberoasting requests TGS for service accounts:
 1. Requests for RC4 encrypted tickets
 2. Mass service ticket requests
 3. Targeting accounts with SPNs
 4. Offline password cracking
 ~Identify accounts targeted for service ticket requests
 Check if requesting user normally needs these tickets
 Review service account password age
 Consider immediate password rotation for targeted accounts" r#"
 # Kerberos TGS Requests for Suspicious Encryption
 ~security 4769
 ? TicketEncryptionType="0x17" OR TicketEncryptionType="0x18"
 ~by ServiceName, ~ip, ~target, TicketEncryptionType
 ? count > 1
 | table ServiceName, ~ip, ~target, TicketEncryptionType, count

 # Mass Service Ticket Requests
 ~security 4769
 ~bin 5m
 | stats dc(ServiceName) as unique_services by ~target, ~ip, _time
 ? unique_services > 10
 ~show ~target, ~ip, unique_services

 # TGS Requests for Service Accounts
 ~security 4769
 | lookup service_accounts servicename as ServiceName OUTPUT is_service_account
 ? is_service_account=1
 ~by ServiceName, ~target, ~ip"# "
 // RC4 encrypted ticket requests
 ~code:4769 AND ~data.TicketEncryptionType:(0x17 OR 0x18)

 // Mass service ticket requests
 ~code:4769
 | stats cardinality(~data.ServiceName) as unique_services by user.name, source.ip
 ? unique_services > 10"
  [detector "Kerberoasting Attack Detection"
    "r1234567-kerberoast-detect-001" securityEvents "
  EventID: 4769
  TicketEncryptionType:
   - '0x17'  # RC4
   - '0x18'  # RC4
 filter:
  ServiceName|endswith: '$'  # Machine accounts normal"],

  draft "
 T1087.001-local-account-discovery; discovery; medium
 Account Discovery
 enumeration of local and domain accounts for reconnaissance
 Sysmon; ~events; PowerShell Logs
 IT administration; Inventory scripts; Monitoring tools
 account-discovery; enumeration
 ~Account discovery for lateral movement planning:
 1. Local account enumeration
 2. Domain user enumeration
 3. Admin group membership queries
 4. Service account discovery
 ~Determine if enumeration is authorized
 Check what accounts were discovered
 Look for subsequent lateral movement
 Review access to sensitive accounts" r#"
 # Net User Commands
 ~run (Image="*\net.exe" OR Image="*\net1.exe")
 ? ~like "%user~or localgroup~or group%"
 ~users Image, ~cmd

 # PowerShell AD Enumeration
 ~run ~shells
 ? ~like "%Get-ADUser~or Get-ADGroupMember%" OR \
 ~like "%Get-LocalUser~or Get-LocalGroupMember%"
 ~users ~cmd

 # LDAP Enumeration
 ~security 4662
 ? ObjectType="user" AND AccessMask="0x100"
 ~by SubjectUserName, SubjectDomainName
 ? count > 50

 # BloodHound/SharpHound Indicators
 ~run
 ? ~like "%sharphound~or bloodhound~or Invoke-BloodHound%"
 ~users ~cmd"# "
 // Net user enumeration
 ~process:(net.exe OR net1.exe) AND
 ~line:(*user* OR *localgroup* OR *group*)

 // PowerShell AD enumeration
 ~process:~pwsh AND
 ~line:(*Get-ADUser* OR *Get-ADGroupMember* OR *Get-LocalUser*)

 // BloodHound indicators
 ~code:1 AND ~line:(*sharphound* OR *bloodhound*)"
  [detector "Account Enumeration via Net Commands"
    "s1234567-account-enum-001" processEvents r#"
 selection_net:
  ~image; \net.exe; \net1.exe
  ~cmd~has; user; group; localgroup"# none ["attack.discovery", "attack.t1087"]],

  draft "
 T1057-process-discovery; discovery; low
 Process Discovery
 enumeration of running processes for security tool identification and target selection
 Sysmon; ~events
 System administration; Monitoring tools; User curiosity
 process; enumeration
 ~Process discovery helps adversaries:
 1. Identify security tools running
 2. Find processes to inject into
 3. Identify targets for credential theft
 4. Avoid detection
 ~Check context of process discovery
 Look for subsequent actions based on discovery
 Correlate with other suspicious activity" r#"
 # Tasklist Command
 ~run Image="*\tasklist.exe"
 ~by ComputerName, User, ParentImage
 ? count > 3

 # WMIC Process Enumeration
 ~run Image="*\wmic.exe"
 ? ~like "%process%list%"
 ~users ~cmd

 # PowerShell Process Enumeration
 ~run ~shells
 ? ~like "%Get-Process~or ps %"
 ~users ~cmd"# "
 // Tasklist execution
 ~process:tasklist.exe

 // WMIC process list
 ~process:wmic.exe AND ~line:*process*list*

 // PowerShell process enumeration
 ~process:~pwsh AND
 ~line:*Get-Process*"
  [detector "Process Discovery Commands" "t1234567-process-discovery-001" processEvents r#"
 selection_tasklist:
  ~image: '\tasklist.exe'
 selection_wmic:
  ~image: '\wmic.exe'
  ~cmd~has: 'process'
 condition: selection_tasklist or selection_wmic"#],

  draft "
 T1021.002-smb-windows-admin-shares; lateral-movement; high
 SMB/Windows Admin Shares Lateral Movement
 lateral movement via SMB admin shares (C$, ADMIN$, IPC$)
 ~events; Sysmon; Network Traffic
 IT administration; SCCM deployments; Backup solutions
 smb; admin-shares; psexec
 ~Admin shares used for:
 1. File copy for execution
 2. Remote code execution
 3. Tool deployment
 4. Data exfiltration
 ~Verify if access is authorized
 Check what was copied or executed
 Review source host for compromise indicators
 Check for subsequent execution" r#"
 # Admin Share Access
 ~security 5140
 ? ShareName IN ("\\*\C$", "\\*\ADMIN$", "\\*\IPC$")
 ~by ~ip, SubjectUserName, ShareName, ObjectType
 | table ~ip, SubjectUserName, ShareName, ObjectType, count

 # File Copy to Admin Share
 ~security 5145
 ? RelativeTargetName LIKE "%.exe%" OR RelativeTargetName LIKE "%.dll%" OR \
 RelativeTargetName LIKE "%.ps1%"
 ~show ~ip, SubjectUserName, ShareName, RelativeTargetName, AccessMask

 # PsExec-like Behavior
 ~sysmon 11
 ? (~file LIKE "\\*\ADMIN$\%") OR (~file LIKE "\\*\C$\Windows\%")
 ~users Image, ~file

 # Remote Service Creation
 ~security 4697
 ~table SubjectUserName, ServiceName, ServiceFileName"# "
 // Admin share access
 ~code:5140 AND ~data.ShareName:(*C$* OR *ADMIN$* OR *IPC$*)

 // Executable file access on admin share
 ~code:5145 AND ~data.RelativeTargetName:(*.exe* OR *.dll* OR *.ps1*)

 // Remote service creation
 ~code:4697"
  [detector "Admin Share Access" "u1234567-adminshare-access-001" securityEvents "
  EventID: 5140
  ShareName~has; C$; ADMIN$
 filter:
  SubjectUserName~has: '$'  # Machine accounts"],

  draft "
 T1021.001-remote-desktop; lateral-movement; high
 Remote Desktop Protocol Lateral Movement
 lateral movement via RDP including suspicious connections and pass-the-hash
 ~events; Windows TerminalServices Logs
 IT support; Remote work; Jump servers
 rdp; remote-desktop
 ~RDP lateral movement indicators:
 1. RDP to many hosts from single source
 2. RDP at unusual times
 3. RDP from unexpected source hosts
 4. RDP with compromised credentials
 ~Verify RDP session is authorized
 Check source host for compromise
 Review actions taken during session
 Check for credential abuse" r#"
 # RDP Login Events
 ~security 4624 LogonType=10
 ~by ~target, ~ip, WorkstationName
 | table ~target, ~ip, WorkstationName, count

 # RDP to Multiple Hosts
 ~security 4624 LogonType=10
 ~bin 1h
 | stats dc(ComputerName) as hosts_accessed by ~target, ~ip, _time
 ? hosts_accessed > 5
 ~show ~target, ~ip, hosts_accessed

 # RDP at Unusual Hours
 ~security 4624 LogonType=10
 | eval hour=strftime(_time, "%H")
 ? hour < 6 OR hour > 22
 ~show ~target, ~ip, ComputerName

 # RDP Session Hijacking
 ~winlog:Microsoft-Windows-TerminalServices* ~id=25
 ~table SessionID, User"# "
 // RDP logon events
 ~code:4624 AND ~data.LogonType:10

 // RDP to multiple hosts
 ~code:4624 AND ~data.LogonType:10
 | stats cardinality(host.name) as hosts by user.name, source.ip
 ? hosts > 5

 // Off-hours RDP
 ~code:4624 AND ~data.LogonType:10
 | eval hour = date_hour(@timestamp)
 ? hour < 6 or hour > 22"
  [detector "RDP Lateral Movement Detection" "v1234567-rdp-lateral-001" securityEvents "
  EventID: 4624
  LogonType: 10
 # Additional context needed for correlation"],

  draft "
 T1560.001-archive-collected-data; collection; medium
 Archive Collected Data
 creation of archives for data collection and exfiltration staging
 Sysmon; EDR
 Backup operations; Software deployments; User archiving
 archive; compression; staging
 ~Adversaries archive data for:
 1. Easier exfiltration
 2. Data compression
 3. Encryption before exfil
 4. Staging for transfer
 ~Review what files are being archived
 Check archive destination
 Look for subsequent exfiltration
 Identify if data is sensitive" r#"
 # Archive Creation via Command Line
 ~run
 ? Image LIKE "%\7z%" OR Image LIKE "%\rar%" OR Image LIKE "%\zip%" OR Image LIKE "%\tar%"
 ~users Image, ~cmd

 # PowerShell Archive Commands
 ~run ~shells
 ? ~like "%Compress-Archive~or ZipFile%" OR ~cmd LIKE "%GZipStream%"
 ~users ~cmd

 # Large Archive File Creation
 ~sysmon 11
 ? ~file LIKE "%.zip" OR ~file LIKE "%.rar" OR ~file LIKE "%.7z" OR ~file LIKE "%.tar%"
 ~users Image, ~file

 # Archive in Suspicious Location
 ~sysmon 11
 ? (~file LIKE "%\Temp\%" OR ~file LIKE "%\AppData\%") AND \
 (~file LIKE "%.zip" OR ~file LIKE "%.rar")
 ~users Image, ~file"# "
 // Archive tool execution
 ~process:(7z.exe OR rar.exe OR zip.exe OR tar.exe)

 // PowerShell archive commands
 ~process:~pwsh AND
 ~line:(*Compress-Archive* OR *ZipFile*)

 // Archive file creation
 ~code:11 AND file.extension:(zip OR rar OR 7z OR tar OR gz)"
  [detector "Archive Tool Execution" "w1234567-archive-tool-001" processEvents r#"
  ~image; \7z.exe; \7za.exe; \rar.exe; \zip.exe"#],

  { draft "
 T1071.001-web-protocols-c2; command-and-control; high
 Web Protocols Command and Control
 C2 communication over HTTP/HTTPS including beaconing, data encoding, and suspicious patterns
 Web Proxy Logs; DNS Logs; Network Traffic; Firewall Logs
 Cloud services; Update mechanisms; Legitimate polling

 ~C2 over web protocols:
 1. Regular beacon intervals
 2. Base64/encoded data in URI or POST
 3. Long lived HTTPS connections
 4. Suspicious User-Agent strings
 ~Analyze beacon timing patterns
 Check destination reputation
 Review data transfer volumes
 Identify affected endpoints" "
 # HTTP Beaconing Detection
 ~proxy
 ~bin 1m
 ~by src_ip, dest_host, _time
 | eventstats stdev(count) as stdev_count avg(count) as avg_count by src_ip, dest_host
 ? stdev_count < 1 AND avg_count > 5 AND count > 0
 | table src_ip, dest_host, _time, count, stdev_count

 # Long Base64 in URI
 ~proxy
 ~rex url \"(?<b64_param>[A-Za-z0-9+/=]\x7b50,\x7d)\"
 ? isnotnull(b64_param)
 ~show src_ip, dest_host, url, b64_param

 # Suspicious User-Agent
 ~proxy
 ? len(useragent) < 20 OR useragent LIKE \"%curl%\" OR useragent LIKE \"%wget%\" OR \\
 useragent LIKE \"%python%\"
 ~by src_ip, useragent, dest_host
 | table src_ip, useragent, dest_host, count

 # High Frequency Connections to Single Host
 ~proxy
 ~by src_ip, dest_host
 ? count > 1000
 | table src_ip, dest_host, count
 | sort - count" "
 // HTTP beaconing pattern
 event.category:network AND destination.port:(80 OR 443)
 ~count() by source.ip, destination.domain
 ? count > 1000

 // Base64 in URL
 url.query:*[A-Za-z0-9+/=]\x7b50,\x7d*

 // Suspicious User-Agent
 user_agent.original:(*curl* OR *wget* OR *python* OR *Go-http-client*)"
  [detector "Suspicious HTTP User-Agent" "x1234567-http-ua-001" ["category: proxy"] "
  c-useragent~has; curl; wget; python; Go-http-client" (some "medium")]
  with tags := ["c2", "http", "https", "beaconing", "command-and-control"] },

  { draft "
 T1071.004-dns-c2; command-and-control; high
 DNS Tunneling and C2
 DNS-based command and control including tunneling and data exfiltration over DNS
 DNS Logs; Network Traffic; Zeek/Bro Logs
 CDN providers; Anti-malware updates; Legitimate SaaS

 ~DNS C2 indicators:
 1. Long DNS queries (>50 chars subdomain)
 2. High volume of DNS to single domain
 3. Unusual TXT record queries
 4. Base32/Base64 encoded subdomains
 ~Analyze query patterns
 Check destination domain age and reputation
 Review query content for encoding
 Identify affected endpoints" "
 # Long DNS Queries (Potential Tunneling)
 index=dns ~type=dns OR ~type=named
 | eval query_len=len(query)
 ? query_len > 50
 ~show src_ip, query, query_len

 # High Volume DNS to Single Domain
 index=dns ~type=dns OR ~type=named
 ~rex query \"(?<domain>[^.]+\\.[^.]+)$\"
 ~by src_ip, domain
 ? count > 500
 | table src_ip, domain, count

 # TXT Record Queries (Common C2)
 index=dns ~type=dns OR ~type=named record_type=TXT
 ~by src_ip, query
 ? count > 10
 | table src_ip, query, count

 # Encoded Subdomain Pattern
 index=dns ~type=dns OR ~type=named
 ~rex query \"^(?<subdomain>[a-z0-9]\x7b20,\x7d)\\.\"
 ? isnotnull(subdomain)
 ~show src_ip, query, subdomain" "
 // Long DNS queries
 dns.question.name:* AND length(dns.question.name) > 50

 // High volume DNS to single domain
 event.category:network AND network.protocol:dns
 ~count() by source.ip, dns.question.registered_domain
 ? count > 500

 // TXT record queries
 dns.question.type:TXT"
  [detector "Suspicious DNS Query Length" "y1234567-dns-tunnel-001" ["category: dns"] "
  # DNS queries with long subdomains
  query|re: '^[a-z0-9]\x7b30,\x7d\\.'"]
  with tags := ["c2", "dns", "tunneling", "exfiltration"] },

  draft "
 T1048-exfiltration-alt-protocol; exfiltration; high
 Exfiltration Over Alternative Protocol
 data exfiltration using non-standard protocols or encrypted channels
 Network Traffic; Firewall Logs; Proxy Logs
 VPN traffic; Legitimate encrypted protocols; Cloud backup
 data-theft; tunneling; dns
 T1048.001; T1048.002; T1048.003
 ~Alternative exfiltration methods:
 1. DNS tunneling
 2. ICMP tunneling
 3. Custom encrypted protocols
 4. Steganography
 ~Identify the protocol being used
 Check data volume transferred
 Review destination reputation
 Identify affected systems" r#"
 # Unusual Outbound Protocol
 index=firewall ~type=pan:traffic OR ~type=cisco:asa
 ? dest_port NOT IN (80, 443, 53, 22, 3389, 25, 587)
 | stats sum(bytes_out) as total_bytes by src_ip, dest_ip, dest_port
 ? total_bytes > 100000000
 | table src_ip, dest_ip, dest_port, total_bytes

 # ICMP Data Exfiltration
 index=firewall ~type=pan:traffic protocol=icmp
 | stats sum(bytes) as icmp_bytes count as icmp_count by src_ip, dest_ip
 ? icmp_bytes > 1000000 OR icmp_count > 1000
 | table src_ip, dest_ip, icmp_bytes, icmp_count

 # Large DNS Responses (DNS Tunneling)
 index=dns ~type=dns
 ? record_type IN ("TXT", "NULL", "CNAME")
 | stats sum(answer_len) as total_dns_bytes by src_ip
 ? total_dns_bytes > 1000000
 | table src_ip, total_dns_bytes"# "
 // Unusual outbound traffic on non-standard ports
 NOT destination.port:(80 OR 443 OR 53 OR 22 OR 3389)
 | stats sum(network.bytes) as total_bytes by source.ip, destination.ip, destination.port
 ? total_bytes > 100000000

 // Large ICMP traffic
 network.transport:icmp
 | stats sum(network.bytes) as bytes, count() as packets by source.ip, destination.ip
 ? bytes > 1000000"
  [detector "Large ICMP Traffic - Potential Data Exfiltration"
    "z1234567-icmp-exfil-001" ["category: firewall"] "
  protocol: 'icmp'
 # Threshold requires SIEM aggregation"],

  draft "
 T1567.002-exfil-cloud-storage; exfiltration; high
 Exfiltration to Cloud Storage
 data exfiltration to cloud storage services like Dropbox, Google Drive, OneDrive
 Web Proxy Logs; DLP Logs; Network Traffic
 Legitimate cloud backup; Collaboration activities; Approved cloud storage
 cloud-storage; data-loss
 ~Cloud storage exfiltration:
 1. Large uploads to personal cloud storage
 2. Uploads during off-hours
 3. Unusual file types being uploaded
 4. First-time cloud storage usage
 ~Identify what files are being uploaded
 Check if cloud storage use is authorized
 Review user's normal cloud activity patterns
 Determine sensitivity of data" r#"
 # Large Upload to Cloud Storage
 ~proxy method=POST
 ? url LIKE "%dropbox.com/upload~url drive.google.com/upload%" OR url LIKE \
 "%onedrive.live.com/upload~url mega.nz%"
 | stats sum(bytes_out) as upload_bytes by src_ip, user, dest_host
 ? upload_bytes > 50000000
 | table src_ip, user, dest_host, upload_bytes

 # Off-Hours Cloud Uploads
 ~proxy method=POST
 ? url LIKE "%dropbox~url drive.google~url onedrive%"
 | eval hour=strftime(_time, "%H")
 ? hour < 6 OR hour > 22
 ~show src_ip, user, url, bytes_out

 # First-Time Cloud Storage Usage
 ~proxy
 ? url LIKE "%dropbox~url drive.google~url onedrive%"
 | stats earliest(_time) as first_seen count by user, dest_host
 ? first_seen > relative_time(now(), "-7d")
 | table user, dest_host, first_seen, count"# "
 // Large uploads to cloud storage
 http.request.method:POST AND destination.domain:(*dropbox.com* OR *drive.google.com* OR \\
 *onedrive.live.com*)
 | stats sum(http.request.bytes) as upload_bytes by source.ip, user.name
 ? upload_bytes > 50000000

 // Off-hours cloud uploads
 http.request.method:POST AND destination.domain:(*dropbox* OR *drive.google* OR *onedrive*)
 | eval hour = date_hour(@timestamp)
 ? hour < 6 or hour > 22"
  [detector "Large Upload to Cloud Storage"
    "aa123456-cloud-exfil-001" ["category: proxy"] "
  c-uri~has; dropbox.com/upload; drive.google.com/upload; onedrive.live.com; mega.nz
 # Threshold based detection for large uploads"],

  draft "
 T1490-inhibit-system-recovery; impact; critical
 Inhibit System Recovery
 attempts to delete or disable system recovery features prior to ransomware deployment
 Sysmon; ~events
 System maintenance; Disk cleanup activities
 ransomware; recovery; vss; critical
 ~Recovery inhibition techniques:
 1. Volume shadow copy deletion
 2. bcdedit recovery disabling
 3. Backup deletion
 4. Safe mode boot manipulation
 ~Check for ransomware indicators
 Identify affected systems immediately
 Attempt to restore from backup
 Isolate affected systems" r#"
 # VSS Shadow Copy Deletion
 ~run
 ? Image LIKE "%\vssadmin.exe" AND ~like "%delete%shadow%"
 ~users ~cmd

 # WMIC Shadow Copy Delete
 ~run Image="*\wmic.exe"
 ? ~like "%shadowcopy%delete%"
 ~users ~cmd

 # BCDEdit Recovery Disable
 ~run Image="*\bcdedit.exe"
 ? ~like "%recoveryenabled%No~or bootstatuspolicy%ignoreallfailures%"
 ~users ~cmd

 # Backup Catalog Deletion
 ~run Image="*\wbadmin.exe"
 ? ~like "%delete%catalog~or delete%systemstatebackup%"
 ~users ~cmd"# "
 // VSS deletion
 ~process:vssadmin.exe AND ~line:*delete*shadow*

 // WMIC shadow delete
 ~process:wmic.exe AND ~line:*shadowcopy*delete*

 // BCDEdit recovery disable
 ~process:bcdedit.exe AND ~line:(*recoveryenabled*No* OR *bootstatuspolicy*ignoreallfailures*)"
  [detector "Shadow Copy Deletion" "bb123456-vss-delete-001" processEvents r#"
 selection_vssadmin:
  ~image: '\vssadmin.exe'
  ~cmd~has|all; delete; shadows
 selection_wmic:
  ~image: '\wmic.exe'
  ~cmd~has|all; shadowcopy; delete
 condition: selection_vssadmin or selection_wmic"#],

  { draft "
 T1486.002-ransomware-encryption; impact; critical
 Ransomware File Encryption
 ransomware encryption activity based on file system changes and process behavior
 Sysmon; EDR; ~events
 Legitimate encryption software; File conversion tools; Batch rename utilities
 ransomware; encryption; critical
 ~Ransomware encryption indicators:
 1. Mass file renames with new extension
 2. High volume of file modifications
 3. Ransom note file creation
 4. Known ransomware process behavior
 ~IMMEDIATELY isolate affected systems
 Identify ransomware variant
 Determine encryption scope
 Check for available backups" r#"
 # Mass File Extension Changes
 ~sysmon 11
 ~rex ~file "(?<extension>\.[^.]+)$"
 | stats dc(extension) as ext_variety count as file_count by ComputerName, Image
 ? file_count > 100 AND ext_variety < 5
 | table ComputerName, Image, file_count, ext_variety

 # Known Ransomware Extensions
 ~sysmon 11
 ? ~file LIKE "%.encrypted%" OR ~file LIKE "%.locked%" OR \
 ~file LIKE "%.crypt%" OR ~file LIKE "%.enc%" OR ~file LIKE "%.xxx%"
 ~by ComputerName, Image, ~file

 # Ransom Note Creation
 ~sysmon 11
 ? ~file LIKE "%README%DECRYPT%" OR ~file LIKE "%HOW_TO_RECOVER%" OR \
 ~file LIKE "%DECRYPT_INSTRUCTIONS%" OR ~file LIKE "%-DECRYPT-%"
 ~users Image, ~file

 # High Volume File Modifications
 ~sysmon 2
 ~bin 1m
 ~by ComputerName, Image, _time
 ? count > 100
 ~table Image, count"# "
 // Known ransomware extensions
 ~code:11 AND file.extension:(encrypted OR locked OR crypt OR enc OR xxx)

 // Ransom note creation
 ~code:11 AND file.name:(*README*DECRYPT* OR *HOW_TO_RECOVER* OR *DECRYPT_INSTRUCTIONS*)

 // Mass file modifications
 ~code:2
 ~count() by host.name, process.name
 ? count > 100"
  [detector "Ransomware File Extension Detection"
    "cc123456-ransomware-ext-001" ["category: file_event", "product: windows"] "
  TargetFilename|endswith; .encrypted; .locked; .crypt; .enc; .crypted"]
  with id := "PB-T1486-002", technique := "T1486" }]

end Huntbook.Starter
