import Huntbook.Form.Error
import Huntbook.Store.Error
import Huntbook.Text.Template

/-!
# Faults

Everything that can go wrong, as one type. Rules and playbooks are read from documents that may hold
anything, and an operation meets a value of the wrong kind only when it gets to it; such a fault
says which kind it met and what was asked of it.
-/

namespace Huntbook.Folder

/-! ## Errors of folders -/

/-- What can be wrong with a path. -/
inductive Trouble
  | missing | present | notFolder | isFolder | nameTooLong | nullByte | unencodable
  deriving DecidableEq

def Trouble.number : Trouble → Nat
  | .missing => 2
  | .present => 17
  | .notFolder => 20
  | .isFolder => 21
  | .nameTooLong => 36
  | .nullByte => 22
  | .unencodable => 84

def Trouble.message : Trouble → String
  | .missing => "No such file or directory"
  | .present => "File exists"
  | .notFolder => "Not a directory"
  | .isFolder => "Is a directory"
  | .nameTooLong => "File name too long"
  | .nullByte => "embedded null byte"
  | .unencodable => "Invalid or incomplete multibyte or wide character"

structure Error where
  trouble : Trouble
  path : String

def Error.message (e : Error) : String :=
  if e.trouble == .nullByte then e.trouble.message
  else if e.trouble == .unencodable then Text.Bytes.refusal e.path
  else s!"[Errno {e.trouble.number}] {e.trouble.message}: {Text.quoted e.path}"

end Huntbook.Folder

namespace Huntbook.Yaml

/-! ## Errors of YAML documents

A document is refused by the part of the reader that finds it wrong: the characters, the tokens,
their grammar, the references between nodes, or the values that nodes stand for. -/

/-- How far the reading of a document gets. -/
inductive Stage
  | characters | tokens | grammar | nodes | values

structure Error where
  stage : Stage
  problem : String

end Huntbook.Yaml

namespace Huntbook

/-- A value of a kind that an operation is not made for. -/
inductive Mismatch
  | unhashable (kind : Kind)
  | unordered (left right : Kind)
  | notIterable (kind : Kind)
  | notContainer (kind : Kind)
  | noLength (kind : Kind)
  | noSubscript (kind : Kind)
  | noAssignment (kind : Kind)
  | notJoinable (index : Nat) (kind : Kind)
  | notSearchable (kind : Kind)
  | listIndex
  | textIndex
  | notAddable (kind : Kind)
  | notWritable (kind : Kind)
  | other (wording : String)
  deriving DecidableEq

def Mismatch.message : Mismatch → String
  | .unhashable k => s!"unhashable type: '{k.name}'"
  | .unordered l r => s!"'<' not supported between instances of '{l.name}' and '{r.name}'"
  | .notIterable k => s!"'{k.name}' object is not iterable"
  | .notContainer k => s!"argument of type '{k.name}' is not iterable"
  | .noLength k => s!"object of type '{k.name}' has no len()"
  | .noSubscript k => s!"'{k.name}' object is not subscriptable"
  | .noAssignment k => s!"'{k.name}' object does not support item assignment"
  | .notJoinable i k => s!"sequence item {i}: expected str instance, {k.name} found"
  | .notSearchable k => s!"expected string or bytes-like object, got '{k.name}'"
  | .listIndex => "list indices must be integers or slices, not str"
  | .textIndex => "string indices must be integers, not 'str'"
  | .notAddable k => s!"can only concatenate str (not \"{k.name}\") to str"
  | .notWritable k => "write() argument must be str, not "
      ++ (if k == .null then "None" else k.name)
  | .other wording => wording

/-- What can go wrong. -/
inductive Fault
  | noOperation (kind : Kind) (name : String)
  | mismatch (m : Mismatch)
  | noEntry (key : Value)
  | noName (name : String)
  | refused (wording : String)
  | template (e : Text.Template.Error)
  | json (e : Json.Error)
  | yaml (e : Yaml.Error)
  | invalid (errors : List Form.Error)
  | store (e : Store.Error)
  | folder (e : Folder.Error)
  | noPlaybook (id : String)
  | undecodable (flaw : Option Text.Bytes.Flaw)
  | unencodable (text : String)
  | longNumber (digits : Nat)
  | overflow (wording : String)
  | service (wording : String)
  | remote (wording : String)
  | unprintable (wording : String)
  | outOfRange
  | tooDeep

/-- What was tried and may have failed. -/
abbrev Try := Except Fault

def Fault.message : Fault → String
  | .noOperation kind name => s!"'{kind.name}' object has no attribute '{name}'"
  | .mismatch m => m.message
  | .noEntry key => key.shown
  | .noName name => s!"name '{name}' is not defined"
  | .refused wording => wording
  | .template e => e.message
  | .json e => e.message
  | .yaml e => e.problem
  | .invalid errors => s!"{errors.length} validation errors"
  | .store e => e.message
  | .folder e => e.message
  | .noPlaybook id => s!"Playbook {id} not found"
  | .undecodable flaw => (flaw.map Text.Bytes.Flaw.message).getD ""
  | .unencodable text => Text.Bytes.refusal text
  | .longNumber digits => "Exceeds the limit (4300 digits) for integer string conversion: "
      ++ s!"value has {digits} digits; use sys.set_int_max_str_digits() to increase the limit"
  | .overflow wording => wording
  | .service wording => wording
  | .remote wording => wording
  | .unprintable wording => wording
  | .outOfRange => "string index out of range"
  | .tooDeep => "maximum recursion depth exceeded"

/-- The digits of a whole number, unless there are too many. -/
def Decimal.wholeText (n : Int) : Try String :=
  if isLongWhole n then .error (.refused longWhole) else .ok (toString n)

def Fault.ofUnread (base : Nat) (cs : Chars) : Decimal.Unread → Fault
  | .malformed =>
    let shown := String.ofList ((Text.quoted (String.ofList cs)).toList.take 200)
    .refused s!"invalid literal for int() with base {base}: {shown}"
  | .long digits => .longNumber digits

def Fault.readBase (base : Nat) (cs : Chars) : Try Int :=
  (Decimal.readBase base cs).mapError (ofUnread base cs)

/-- The fault of a form that is not filled in rightly. An infinite number where a whole one is
    asked for counts before all else. -/
def Fault.ofForm (errors : List Form.Error) : Fault :=
  if errors.any (·.problem == .infinite) then .overflow Form.Problem.infinite.message
  else .invalid errors

def Fault.ofJson : Json.Trouble → Fault
  | .malformed e => .json e
  | .longNumber digits => .longNumber digits
  | .tooDeep => .tooDeep

def Fault.isMissing : Fault → Bool
  | .noPlaybook _ => true
  | .folder e => e.trouble == .missing
  | _ => false

def Fault.isRefusal : Fault → Bool
  | .refused _ => true
  | .json _ => true
  | .invalid _ => true
  | .undecodable _ => true
  | .unencodable _ => true
  | .longNumber _ => true
  | .folder e => e.trouble == .nullByte || e.trouble == .unencodable
  | _ => false

end Huntbook
