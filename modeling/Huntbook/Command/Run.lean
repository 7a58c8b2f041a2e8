import Huntbook.Command.Books

/-!
# Running commands

A command line names a command and gives it words and switches. A command that is used wrongly
does nothing and gives the code 2; one that fails gives the code 1.
-/

namespace Huntbook.Command

open Doing

/-! ## Commands of the assistant -/

def answered (title answer : String) : Doing Unit :=
  panel ("[bold]" ++ title ++ "[/bold]") (.ok (Markdown.printed answer))

def wordAfter? (word : String) : Texts → Option String
  | [] => none
  | w :: rest => if w == word then rest.head? else wordAfter? word rest

def finding (words : Texts) : Doing String := do
  if !words.contains "--found" then fail "Use --found \"description\" to provide finding"
  match wordAfter? "--found" words with
  | some s => return s
  | none =>
    fail "Finding description required after --found"
    return ""

def request (a : Chat.Assistant) (words : Texts) (g : Given) : Doing Unit := do
  let given := g.words.drop 1
  let id := given.headD ""
  match g.words.headD "" with
  | "explain" =>
    if given.isEmpty then fail "Playbook ID required"
    let p ← playbook (.text id)
    answered ("AI Explanation: " ++ id) (← talk (a.explain p))
  | "ask" =>
    if given.isEmpty then fail "Question required"
    answered "AI Response" (← talk (a.answer (.text (" ".intercalate given)) .null))
  | "suggest" =>
    let found ← finding words
    answered "Investigation Suggestions" (← talk (a.advise (.text found) .null))
  | "generate" =>
    if given.isEmpty then fail "Playbook ID required"
    let target := (g.value? "target").getD ""
    let platform := (g.value? "siem").getD ""
    if target.isEmpty || platform.isEmpty then fail "--target and --siem required for generate"
    let p ← playbook (.text id)
    let _ ← orFault (Markup.plain ("[bold green]Generating variant for " ++ target ++ "..."))
    answered s!"Generated Variant: {target} ({platform})"
      (← talk (a.adapt p (.text target) (.text platform)))
  | other =>
    say ("[red]Error:[/red] Unknown subcommand: " ++ other)
    say "Valid subcommands: explain, ask, suggest, generate"
    throw (.exit 1)

def assist (words : Texts) (g : Given) : Doing Unit := do
  let a := (← get).assistant
  if !a.isAvailable then
    say "[red]Error:[/red] AI Assistant not configured"
    say "Set GROQ_API_KEY or OPENAI_API_KEY in .env file"
    say "See .env.example for details"
    throw (.exit 1)
  told (some "Playbook not found") do
    say ("[dim]" ++ a.info ++ "[/dim]\n")
    request a words g

/-- A command. -/
structure Entry where
  name : String
  usage : Usage
  run : Texts → Given → Doing Unit

def platformSwitch (letter : Option Char) (required : Bool) : Switch :=
  { name := "siem", letter, choices := Playbook.platforms, required }

def commands : List Entry :=
  [{ name := "search"
     usage :=
       { switches := [{ name := "technique", letter := some 't' }, { name := "tactic" },
           { name := "tag" },
           { name := "severity", letter := some 's', choices := severityColours.map (·.1) }]
         most := some 1 }
     run := fun _ => search },
   { name := "list", usage := {}, run := fun _ => list },
   { name := "show"
     usage :=
       { switches := [{ name := "format", letter := some 'f', choices := ["text", "json"] }]
         least := 1
         most := some 1 }
     run := fun _ => display },
   { name := "export"
     usage :=
       { switches := [platformSwitch (some 's') true, { name := "output", letter := some 'o' }]
         least := 1
         most := some 1 }
     run := fun _ => exportOne },
   { name := "export-all"
     usage :=
       { switches := [platformSwitch (some 's') false, { name := "output", letter := some 'o' }]
         most := some 1 }
     run := fun _ => exportMany },
   { name := "ai"
     usage :=
       { switches := [{ name := "target" }, platformSwitch none false]
         least := 1
         most := none }
     run := assist }]

structure Outcome where
  code : Nat
  lines : Option Texts

def helpLines : Texts :=
  "Usage: hunt COMMAND [ARGUMENTS]" :: "Commands:" :: commands.map fun c => "  " ++ c.name

def Shell.perform (s : Shell) (w : Doing Unit) : Outcome × Shell :=
  let (r, s) := w.run.run { s with printed := [] }
  let code := match r with
    | .ok () => 0
    | .error (.exit code) => code
    | .error (.fault _) => 1
  (⟨code, some s.printed.reverse⟩, s)

def Shell.run (s : Shell) (args : Texts) : Outcome × Shell :=
  let misuse : Outcome × Shell := (⟨2, none⟩, s)
  let help : Outcome × Shell := (⟨0, some helpLines⟩, s)
  match args, ({ flags := ["help", "version"] } : Usage).sort false none args with
  | [], _ => help
  | _, none => misuse
  | _, some sorted =>
    match sorted.flags, sorted.words with
    | "version" :: _, _ => (⟨0, some ["cli, version 1.0.0"]⟩, s)
    | _ :: _, _ => help
    | [], [] => misuse
    | [], name :: rest =>
      match commands.find? (·.name == name) with
      | none => misuse
      | some c =>
        match c.usage.read rest with
        | .given g => s.perform (c.run args g)
        | .help => help
        | .misuse => misuse

end Huntbook.Command
