import Huntbook.Chat.Assistant
import Huntbook.Command.Markdown
import Huntbook.Playbook.Shelf

/-!
# The shell

What commands work on, and how they print. Commands print texts, tables, panels and queries one
after the other.
-/

namespace Huntbook.Command

/-! ## Arguments

The words after a command: switches with their values, and other words. A switch has a long name,
after two dashes, and perhaps a letter, after one. -/

/-- An option that takes a value. -/
structure Switch where
  name : String
  letter : Option Char := none
  choices : Texts := []
  required : Bool := false

/-- What a command can be given. -/
structure Usage where
  switches : List Switch := []
  flags : Texts := ["help"]
  least : Nat := 0
  most : Option Nat := some 0

/-- What a word of the command line is. -/
inductive Sign
  | word
  | ended
  | flag (name : String)
  | value (name given : String)
  | waiting (name : String)
  | unknown
  deriving DecidableEq

def atEquals (word : Chars) : Chars × Option Chars :=
  match word.span (· != '=') with
  | (name, _ :: value) => (name, some value)
  | (name, []) => (name, none)

def Usage.sign (u : Usage) (word : String) : Sign :=
  match word.toList with
  | ['-', '-'] => .ended
  | '-' :: '-' :: rest =>
    let (name, given) := atEquals rest
    let name := String.ofList name
    if u.switches.any (·.name == name) then
      match given with
      | some v => .value name (String.ofList v)
      | none => .waiting name
    else if u.flags.contains name && given.isNone then .flag name
    else .unknown
  | '-' :: c :: rest =>
    match u.switches.find? fun s => s.letter == some c with
    | some s => if rest.isEmpty then .waiting s.name else .value s.name (String.ofList rest)
    | none => .unknown
  | _ => .word

structure Sorted where
  values : TextPairs
  (flags words : Texts)

/-- Words sorted. With `mixed`, switches may stand after other words. Nothing comes of a switch
    that is unknown or lacks its value. -/
def Usage.sort (u : Usage) (mixed : Bool) : Option String → Texts → Option Sorted
  | none, [] => some ⟨[], [], []⟩
  | some _, [] => none
  | some name, v :: rest => (u.sort mixed none rest).map fun s =>
      { s with values := (name, v) :: s.values }
  | none, word :: rest =>
    match u.sign word with
    | .word =>
      if mixed then (u.sort mixed none rest).map fun s => { s with words := word :: s.words }
      else some ⟨[], [], word :: rest⟩
    | .ended => some ⟨[], [], rest⟩
    | .flag name => (u.sort mixed none rest).map fun s => { s with flags := name :: s.flags }
    | .value name v => (u.sort mixed none rest).map fun s =>
        { s with values := (name, v) :: s.values }
    | .waiting name => u.sort mixed (some name) rest
    | .unknown => none

structure Given where
  values : TextPairs
  words : Texts

def Given.value? (g : Given) (name : String) : Option String := g.values.lookup name

inductive Reading
  | given (g : Given)
  | help
  | misuse

def Switch.isMet (values : TextPairs) (s : Switch) : Bool :=
  match values.lookup s.name with
  | some v => s.choices.isEmpty || s.choices.contains v
  | none => !s.required

def Usage.read (u : Usage) (args : Texts) : Reading :=
  match u.sort true none args with
  | none => .misuse
  | some s =>
    let values := s.values.reverse
    if s.flags.contains "help" then .help
    else if u.switches.all (·.isMet values) && u.least ≤ s.words.length
        && u.most.all (s.words.length ≤ ·) then .given ⟨values, s.words⟩
    else .misuse

/-- What commands work with, and what they have printed. -/
structure Shell where
  tree : Folder.Tree
  shelf : Playbook.Shelf
  assistant : Chat.Assistant
  session : Chat.Session
  printed : Texts

def Shell.start (tree : Folder.Tree) (books : Folder.Path) (env : Environment)
    (session : Chat.Session) : Try Shell := do
  let shelf ← Playbook.Shelf.ofFolder tree books
  let (assistant, session) := session.hold (Chat.Assistant.ofEnvironment env)
  return { tree, shelf, session, assistant := ← assistant, printed := [] }

inductive Stop
  | exit (code : Nat)
  | fault (f : Fault)

abbrev Doing := ExceptT Stop (StateM Shell)

namespace Doing

def orFault {α : Type} (r : Try α) : Doing α :=
  match r with
  | .ok a => return a
  | .error f => throw (.fault f)

def ask {α : Type} (f : Shell → Try α) : Doing α := do
  orFault (f (← get))

def files {α : Type} (w : Folder.Work α) : Doing α := do
  let s ← get
  let (r, tree) := w.run.run s.tree
  set { s with tree }
  orFault r

def talk {α : Type} (t : Chat.Talk α) : Doing α := do
  let s ← get
  let (r, session) := s.session.hold t
  set { s with session }
  orFault r

def playbook (id : Value) : Doing Value := do
  let (p, shelf) ← ask fun s => s.shelf.load s.tree id
  modify fun s => { s with shelf }
  return p

def put (lines : Texts) : Doing Unit :=
  modify fun s => { s with printed := lines.reverse ++ s.printed }

def say (text : String) : Doing Unit := do
  put (Text.split (← orFault (Markup.plain text)) '\n')

def cell : Value → Try String
  | .null => .ok ""
  | .text s => .ok s
  | v => .error (.unprintable (s!"unable to render {v.kind.shortName}; "
      ++ "a string or other renderable object is required"))

def padded (width : Nat) (s : String) : String :=
  s ++ String.ofList (List.replicate (width - s.length) ' ')

def rowLines (widths : List Nat) (cells : List Texts) : Texts :=
  let height := (cells.map List.length).foldl max 0
  (List.range height).map fun i =>
    "  ".intercalate ((cells.zip widths).map fun (lines, width) => padded width (lines.getD i ""))

def tableLines (rows : List Texts) : Texts :=
  let rows := rows.map (·.map (Text.split · '\n'))
  let width (i : Nat) : Nat :=
    ((rows.flatMap fun r => (r.getD i []).map String.length)).foldl max 0
  let columns := (rows.map List.length).foldl max 0
  rows.flatMap (rowLines ((List.range columns).map width))

def table (title : Texts) (header : List Texts) (rows : List Texts) :
    Doing Unit := do
  let rows ← orFault (rows.mapM (·.mapM Markup.plain))
  put (title ++ tableLines (header ++ rows))

def panel (title : String) (lines : Try Texts) : Doing Unit := do
  let title ← orFault (Markup.plain title)
  put (Text.replace title "\n" " " :: (← orFault lines))

def panelLines : Value → Try Texts
  | .text s => do return Text.split (← Markup.plain s) '\n'
  | v => .error (.unprintable (s!"Unable to render {v.shown}; "
      ++ "A str, Segment or object with __rich_console__ method is required"))

def numbered (query : String) : Texts :=
  ((Text.split query '\n').zipIdx 1).map fun (line, n) => toString n ++ " " ++ line

def listing (query : Value) : Doing Unit :=
  match query with
  | .text s => put (numbered s)
  | .list _ => throw (.fault (.noOperation .list "endswith"))
  | .tuple _ => throw (.fault (.noOperation .tuple "endswith"))
  | v => throw (.fault (.noOperation v.kind "count"))

def told (missing : Option String) (w : Doing Unit) : Doing Unit :=
  tryCatch w fun
    | .fault f => do
      let wording := if f.isMissing then missing.getD f.message else f.message
      say ("[red]Error:[/red] " ++ wording)
      throw (.exit 1)
    | s => throw s

def fail (wording : String) : Doing Unit := do
  say ("[red]Error:[/red] " ++ wording)
  throw (.exit 1)

end Doing

end Huntbook.Command
