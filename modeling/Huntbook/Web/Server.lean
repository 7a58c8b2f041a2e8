import Huntbook.Chat.Advisor
import Huntbook.Playbook.Shelf
import Huntbook.Rule
import Huntbook.Store.Basic
import Huntbook.Form.Basic

/-!
# The server

What lives as long as the server: the files, the shelf of playbooks, the store, the environment, the
assistant, and the conversations with language models.
-/

namespace Huntbook.Web

/-! ## Requests

A request has a method, a path, named texts in its query, and perhaps a body. -/

structure Request where
  (method path : String)
  query : TextPairs
  body : Option String

/-- A part of the pattern of a path. -/
inductive Segment
  | fixed (s : String)
  | word (name : String)
  | number (name : String)
  | rest (name : String)
  deriving DecidableEq

abbrev Pattern := List Segment

def segmentsOf (path : String) : Texts := (Text.split path '/').drop 1

/-- A segment by its spelling: a colon before the name of a text, a number sign before the name
    of a number, an asterisk before the name of all that remains. -/
def Segment.ofText (s : String) : Segment :=
  match s.toList with
  | ':' :: name => .word (String.ofList name)
  | '#' :: name => .number (String.ofList name)
  | '*' :: name => .rest (String.ofList name)
  | _ => .fixed s

namespace Pattern

def ofText (s : String) : Pattern := (segmentsOf s).map Segment.ofText

def withoutFeed (s : String) : String :=
  match s.toList.reverse with
  | '\n' :: before => String.ofList before.reverse
  | _ => s

/-- The values in the segments of a path, if they fit. A line feed at the very end of a path does
    not count where the text is given or all that remains is taken. -/
def values? : Pattern → Texts → Option TextPairs
  | [], [] => some []
  | [.fixed s], [t] => if t == s || withoutFeed t == s then some [] else none
  | .fixed s :: p, t :: ts => if t == s then values? p ts else none
  | .word name :: p, t :: ts => if t.isEmpty then none else (values? p ts).map ((name, t) :: ·)
  | .number name :: p, t :: ts => if t.isEmpty then none else (values? p ts).map ((name, t) :: ·)
  | [.rest name], t :: ts =>
    let all := withoutFeed ("/".intercalate (t :: ts))
    if all.toList.contains '\n' then none else some [(name, all)]
  | _, _ => none

end Pattern

def otherSlash (path : String) : String :=
  match path.toList.reverse with
  | '/' :: before => String.ofList (before.dropWhile (· == '/')).reverse
  | _ => path ++ "/"

/-! ## Replies

A reply has a status and a body. The body is a value that JSON can write: dates and moments
become texts, sets and tuples become lists, and keys become texts. -/

structure Reply where
  status : Nat
  body : Value

namespace Reply

def ofDetail (status : Nat) (detail : Value) : Reply := ⟨status, .record [("detail", detail)]⟩

def isInner (key : Value) : Bool := key.text?.any fun s => Text.startsWith s "_sa"

mutual

def plain : Value → Try Value
  | .date d => .ok (.text d.text)
  | .moment t => .ok (.text t.text)
  | .bytes data =>
    match String.fromUTF8? ⟨data.toArray⟩ with
    | some s => .ok (.text s)
    | none => .error (.undecodable (Text.Bytes.flaw? data))
  | .list items => (plainAll items).map .list
  | .tuple items => (plainAll items).map .list
  | .set items => (plainAll items).map .list
  | .map entries => do return .map (Value.ofEntries (← plainEntries entries))
  | v => .ok v

def plainAll : List Value → Try (List Value)
  | [] => .ok []
  | v :: vs => do return (← plain v) :: (← plainAll vs)

def plainEntries : Entries → Try Entries
  | [] => .ok []
  | (k, v) :: rest =>
    if isInner k then plainEntries rest
    else do
      let key ← plain k
      let v ← plain v
      if !key.hashable then throw (Value.keyFault key)
      return (key, v) :: (← plainEntries rest)

end

def finite (x : Float) : Try Float :=
  if x.isNaN || x.isInf then .error (.refused "Out of range float values are not JSON compliant")
  else .ok x

def keyOf (k : Value) : Try Value := do
  match k with
  | .float x => let _ ← finite x
  | _ => pure ()
  return .text (← Json.keyText k)

mutual

def writable : Value → Try Value
  | .float x => (finite x).map .float
  | .int n => (Decimal.wholeText n).map fun _ => .int n
  | .list items => (writableAll items).map .list
  | .map entries => (writableEntries entries).map .map
  | v => .ok v

def writableAll : List Value → Try (List Value)
  | [] => .ok []
  | v :: vs => do return (← writable v) :: (← writableAll vs)

def writableEntries : Entries → Try Entries
  | [] => .ok []
  | (k, v) :: rest => do return (← keyOf k, ← writable v) :: (← writableEntries rest)

end

mutual

def unencodable? : Value → Option String
  | .text s => if Text.holdsHalf s then some s else none
  | .list items => unencodableIn? items
  | .map entries => unencodableWithin? entries
  | _ => none

def unencodableIn? : List Value → Option String
  | [] => none
  | v :: vs => (unencodable? v).or (unencodableIn? vs)

def unencodableWithin? : Entries → Option String
  | [] => none
  | (k, v) :: rest => ((unencodable? k).or (unencodable? v)).or (unencodableWithin? rest)

end

def encodable (r : Reply) : Try Reply :=
  match unencodable? r.body with
  | some s => .error (.unencodable s)
  | none => .ok r

def bodyOf (v : Value) : Try Value := do
  writable (← plain v)

end Reply

/-- What requests are served from. -/
structure Server where
  tree : Folder.Tree
  shelf : Playbook.Shelf
  rules : Folder.Path
  store : Store
  env : Environment
  settings : Settings
  assistant : Chat.Assistant
  session : Chat.Session

def Server.start (tree : Folder.Tree) (books rules : Folder.Path) (store : Store)
    (env : Environment) (session : Chat.Session) : Try Server := do
  let shelf ← Playbook.Shelf.ofFolder tree books
  let (assistant, session) := session.hold (Chat.Assistant.ofEnvironment env)
  return {
    tree, shelf, rules, store, env, session
    assistant := ← assistant
    settings := ← Settings.ofEnvironment env }

def Server.library (s : Server) : Rule.Library where
  tree := s.tree
  folder := s.rules

/-- Why an endpoint stops early. -/
inductive Halt
  | denied (status : Nat) (detail : String)
  | fault (f : Fault)

def Halt.message : Halt → String
  | .denied _ _ => ""
  | .fault f => f.message

abbrev Serving := ExceptT Halt (StateM Server)

namespace Serving

def deny {α : Type} (status : Nat) (detail : String) : Serving α :=
  throw (.denied status detail)

def orFault {α : Type} (r : Try α) : Serving α :=
  match r with
  | .ok a => return a
  | .error f => throw (.fault f)

def ask {α : Type} (f : Server → Try α) : Serving α := do
  orFault (f (← get))

def files {α : Type} (w : Folder.Work α) : Serving α := do
  let s ← get
  let (r, tree) := w.run.run s.tree
  set { s with tree }
  orFault r

def stored {α : Type} (w : Store.Work α) : Serving α := do
  let s ← get
  let (r, store) := w.run.run s.store
  set { s with store }
  orFault r

def talk {α : Type} (t : Chat.Talk α) : Serving α := do
  let s ← get
  let (r, session) := s.session.hold t
  set { s with session }
  orFault r

def playbook (id : Value) : Serving Value := do
  let (p, shelf) ← ask fun s => s.shelf.load s.tree id
  modify fun s => { s with shelf }
  return p

/-- Work that never fails: what is missing gives 404 if there is a detail for it, a refusal
    gives 400 if `refusals` is set, and anything else gives 500 with its wording. -/
def attempt {α : Type} (missing : Option String) (refusals : Bool) (w : Serving α) : Serving α :=
  tryCatch w fun h =>
    match h, missing with
    | .fault f, some detail =>
      if f.isMissing then deny 404 detail
      else if refusals && f.isRefusal then deny 400 f.message
      else deny 500 f.message
    | .fault f, none => if refusals && f.isRefusal then deny 400 f.message else deny 500 f.message
    | h, _ => deny 500 h.message

def always {α : Type} (w : Serving α) : Serving α := attempt none false w

end Serving

/-! ## Endpoints

An endpoint says what it takes from a request: values from the path, from the query and from the
body. -/

/-- What an endpoint gets of a request. -/
structure Input where
  now : Moment
  arguments : Fields
  body : Value
  given : Texts
  raw : String

namespace Input

def arg (i : Input) (name : String) : Value := (i.arguments.lookup name).getD .null

def number (i : Input) (name : String) : Nat :=
  match i.arg name with
  | .int n => n.toNat
  | _ => 0

def field (i : Input) (name : String) : Value := (i.body.field? name).getD .null

def givenFields (i : Input) : Entries :=
  (i.body.entries?.getD []).filter fun e => e.1.text?.any i.given.contains

def document (i : Input) : Try Value :=
  match Json.decode? i.raw.toUTF8.toList with
  | some text => (Json.read text).mapError Fault.ofJson
  | none => .error (.undecodable none)

end Input

/-- An endpoint, and the requests that it is for. -/
structure Route where
  method : String
  pattern : Pattern
  query : List Form.Field := []
  body : Option Form.Kind := none
  run : Input → Serving Value

namespace Route

def pathFields (p : Pattern) : List Form.Field :=
  p.filterMap fun
    | .fixed _ => none
    | .word name => some (name, .anyText, none)
    | .number name => some (name, .int, none)
    | .rest name => some (name, .anyText, none)

def textEntries (texts : TextPairs) : Entries :=
  texts.map fun t => (.text t.1, .text t.2)

def both {α β : Type} (a : Except (List Form.Error) α) (b : Except (List Form.Error) β) :
    Except (List Form.Error) (α × β) :=
  match a, b with
  | .ok a, .ok b => .ok (a, b)
  | .ok _, .error es => .error es
  | .error es, .ok _ => .error es
  | .error es, .error more => .error (es ++ more)

/-- Why a request does not get to its endpoint. -/
inductive Rejection
  | invalid (errors : List Form.Error)
  | unreadable

def readBody (raw : String) : Except Rejection Value :=
  if raw.isEmpty then .ok .null
  else match Json.decode? raw.toUTF8.toList with
    | none => .error .unreadable
    | some text =>
      match Json.read text with
      | .ok v => .ok v
      | .error (.malformed e) =>
        .error (.invalid [⟨[.name "body", .index e.position], .notJson e text⟩])
      | .error _ => .error .unreadable

def checkBody (kind : Form.Kind) (v : Value) : Except (List Form.Error) Value :=
  Form.under (.name "body") <|
    if v.isNull then .error (Form.here .missing) else kind.check v

def input (route : Route) (now : Moment) (values : TextPairs) (r : Request) :
    Except Rejection Input := do
  let raw := r.body.getD ""
  let document ← match route.body with
    | some _ => readBody raw
    | none => pure .null
  let path := Form.under (.name "path")
    (Form.Kind.checkFields (pathFields route.pattern) (textEntries values))
  let query := Form.under (.name "query")
    (Form.Kind.checkFields route.query (textEntries r.query))
  let body := match route.body with
    | some kind => checkBody kind document
    | none => .ok .null
  let (path, query, body) ← (both path (both query body)).mapError .invalid
  let given := ((Form.asEntries? document).getD []).filterMap fun e => e.1.text?
  return { now, arguments := path ++ query, body, given, raw }

end Route

end Huntbook.Web
