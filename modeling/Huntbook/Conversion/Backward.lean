import Huntbook.Text.Finder
import Huntbook.Yaml.Writer
import Huntbook.Value.Access

/-!
# From searches to rules

A best effort to read a search of Splunk as a detection rule. The search is not parsed: phrases that
look like comparisons are picked out of it wherever they stand.
-/

namespace Huntbook.Conversion

open Text

/-- A comparison in a search. -/
structure Comparison where
  (field text : String)

def commandPhrase (word : String) : Phrase Chars := fun _ cs => do
  let rest ← one? (· == '|') cs
  let rest ← dropFold? word.toList (skipBlanks rest)
  if isBoundary word.toList.getLast? rest.head? then some (rest, rest) else none

def hasCommand (search word : String) : Bool := (first? (commandPhrase word) search).isSome

def byPhrase : Phrase Unit := fun before cs => do
  if isBoundary before cs.head? then
    let rest ← dropFold? ['b', 'y'] cs
    if isBoundary (some 'y') rest.head? then some ((), rest) else none
  else none

def groupPhrase : Phrase Unit := fun before cs => do
  let (rest, _) ← commandPhrase "stats" before cs
  let _ ← firstFrom? byPhrase (some 's') (rest.takeWhile (· != '\n'))
  return ((), rest)

def features (search : String) : Texts :=
  (if hasCommand search "join" then
    ["join command - correlation logic cannot be fully represented"] else [])
  ++ (if hasCommand search "transaction" then
    ["transaction command - multi-event correlation"] else [])
  ++ (if (first? groupPhrase search).isSome then
    ["stats aggregation - converted to basic detection"] else [])
  ++ (if hasCommand search "lookup" then ["lookup command - external data reference"] else [])

def featureNote (features : Texts) : Option String :=
  if features.isEmpty then none
  else some ("Complex SPL features detected:\n"
    ++ "\n".intercalate (features.map ("- " ++ ·))
    ++ "\n\nConsider using Sigma correlation rules for full functionality.")

def isQuote (c : Char) : Bool := c == '"' || c == '\''

def equals? (cs : Chars) : Option Chars := (one? (· == '=') (skipBlanks cs)).map skipBlanks

def indexPhrase : Phrase String := fun _ cs => do
  let rest ← equals? (← dropStart? "index".toList cs)
  let (name, rest) ← run? (fun c => !isBlank c) rest
  return (String.ofList (strip isQuote name), rest)

def sourcetypePhrase : Phrase String := fun _ cs => do
  let rest ← equals? (← dropStart? "sourcetype".toList cs)
  let rest := (one? isQuote rest).getD rest
  let (name, rest) ← run? (fun c => !isQuote c && !isBlank c) rest
  return (String.ofList name, rest)

def codePhrase : Phrase Chars := fun _ cs => do
  let rest ← equals? (← dropFold? "eventcode".toList cs)
  run? isDecimal rest

def eventCode (search : String) : Try (Option Nat) :=
  (first? codePhrase search).mapM fun digits => (Fault.readBase 10 digits).map Int.toNat

def quoted? (cs : Chars) : Option (Chars × Chars) := do
  let rest ← one? isQuote cs
  let (found, rest) ← run? (fun c => !isQuote c) rest
  return (found, ← one? isQuote rest)

def matchPhrase : Phrase Comparison := fun _ cs => do
  let rest ← (dropFold? "match".toList cs).or (dropFold? "like".toList cs)
  let rest ← one? (· == '(') (skipBlanks rest)
  let (field, rest) ← run? isWord (skipBlanks rest)
  let rest ← one? (· == ',') (skipBlanks rest)
  let (pattern, rest) ← quoted? (skipBlanks rest)
  return (⟨String.ofList field, String.ofList pattern⟩, rest)

def equalPhrase : Phrase Comparison := fun _ cs => do
  let (field, rest) ← run? isWord cs
  let (text, rest) ← quoted? (← equals? rest)
  return (⟨String.ofList field, String.ofList text⟩, rest)

def unequalPhrase : Phrase Comparison := fun _ cs => do
  let (field, rest) ← run? isWord cs
  let rest ← one? (· == '!') (skipBlanks rest)
  let rest ← one? (· == '=') rest
  let (text, rest) ← quoted? (skipBlanks rest)
  return (⟨String.ofList field, String.ofList text⟩, rest)

def wildcardsOf (pattern : String) : String :=
  let s := replace (replace (replace pattern "(?i)" "") ".*" "*") "." "?"
  String.ofList (strip (fun c => c == '^' || c == '$') s.toList)

def services : Texts := ["sysmon", "security", "powershell"]

def codeCategory (code : Nat) : Option String :=
  if code == 1 || code == 4688 then some "process_creation"
  else if code == 3 then some "network_connection"
  else if code == 11 then some "file_event"
  else if code == 12 || code == 13 || code == 14 then some "registry_event"
  else if code == 22 then some "dns_query"
  else none

def putText (entries : Entries) (key text : String) : Entries :=
  Value.putField key (.text text) entries

def sourceOf (search : String) (code : Option Nat) : Entries :=
  let isLinux := (first? indexPhrase search).any fun index => contains (lower index) "linux"
  let source := putText [] "product" (if isLinux then "linux" else "windows")
  let service := (first? sourcetypePhrase search).bind fun sourcetype =>
    services.find? (contains (lower sourcetype))
  let source := (service.map (putText source "service")).getD source
  match code with
  | none => source
  | some code =>
    let source := ((codeCategory code).map (putText source "category")).getD source
    if code == 4688 then putText source "service" "security" else source

def sourceFields : Texts := ["index", "sourcetype", "eventcode"]

def selectionOf (search : String) (code : Option Nat) : Entries :=
  let start := (code.map fun code => Value.putField "EventID" (.int code) []).getD []
  let withMatches := (all matchPhrase search).foldl
    (fun entries c =>
      let text := wildcardsOf c.text
      if text.isEmpty then entries else putText entries (c.field ++ "|contains") text) start
  (all equalPhrase search).foldl
    (fun entries c =>
      if sourceFields.contains (lower c.field) then entries
      else putText entries c.field c.text) withMatches

def filterOf (search : String) : Entries :=
  (all unequalPhrase search).foldl (fun entries c => putText entries c.field c.text) []

def detectionOf (search : String) (code : Option Nat) : Value :=
  let filter := filterOf search
  if filter.isEmpty then
    .record [("selection", .map (selectionOf search code)), ("condition", .text "selection")]
  else
    .record [("selection", .map (selectionOf search code)),
      ("condition", .text "selection and not filter"), ("filter", .map filter)]

/-- What a new rule says about itself. -/
structure Heading where
  (title level status author description : Value)

def orText (v : Value) (text : String) : Value := if v.truthy then v else .text text

def draftRule (search : String) (code : Option Nat) (heading : Heading) : Value :=
  .record <| List.filter (fun f => !f.2.isNull)
    [("title", heading.title), ("status", heading.status),
     ("description", orText heading.description "Auto-generated from SPL query"),
     ("author", orText heading.author "Sigma Translator"),
     ("logsource", .map (sourceOf search code)), ("detection", detectionOf search code),
     ("level", heading.level)]

/-- A rule as a text, and a note on what is missing in it. -/
structure Draft where
  document : String
  note : Option String

def reverse (search : String) (heading : Heading) : Try Draft := do
  let code ← eventCode search
  return ⟨Yaml.write .ascii (draftRule search code heading), featureNote (features search)⟩

end Huntbook.Conversion
