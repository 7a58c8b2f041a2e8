import Huntbook.Json.Reader

/-!
# Errors of forms

What is wrong with a filled-in form: where, and which rule is broken. Every problem has a wording
and a code, and some have details.
-/

namespace Huntbook.Form

/-- A step into a value. -/
inductive Step
  | name (s : String)
  | index (i : Nat)
  deriving DecidableEq

inductive Problem
  | missing
  | nullValue
  | notText
  | notInteger
  | infinite
  | notBool
  | notList
  | notMap
  | notForm (model kind : String)
  | notMember (permitted : Texts)
  | tooShort (least : Nat)
  | tooLong (most : Nat)
  | tooSmall (least : Int)
  | tooLarge (most : Int)
  | notMoment
  | noMomentKind
  | notJson (error : Json.Error) (document : String)
  | rejected (wording : String)
  deriving DecidableEq

def Problem.message : Problem → String
  | .missing => "field required"
  | .nullValue => "none is not an allowed value"
  | .notText => "str type expected"
  | .notInteger => "value is not a valid integer"
  | .infinite => "cannot convert float infinity to integer"
  | .notBool => "value could not be parsed to a boolean"
  | .notList => "value is not a valid list"
  | .notMap => "value is not a valid dict"
  | .notForm model kind => s!"{model} expected dict not {kind}"
  | .notMember permitted => "value is not a valid enumeration member; permitted: "
      ++ ", ".intercalate (permitted.map fun p => "'" ++ p ++ "'")
  | .tooShort n => s!"ensure this value has at least {n} characters"
  | .tooLong n => s!"ensure this value has at most {n} characters"
  | .tooSmall n => s!"ensure this value is greater than or equal to {n}"
  | .tooLarge n => s!"ensure this value is less than or equal to {n}"
  | .notMoment => "invalid datetime format"
  | .noMomentKind => "invalid type; expected datetime, string, bytes, int or float"
  | .notJson error _ => error.message
  | .rejected wording => wording

def Problem.code : Problem → String
  | .missing => "value_error.missing"
  | .nullValue => "type_error.none.not_allowed"
  | .notText => "type_error.str"
  | .notInteger => "type_error.integer"
  | .infinite => "value_error"
  | .notBool => "type_error.bool"
  | .notList => "type_error.list"
  | .notMap => "type_error.dict"
  | .notForm _ _ => "type_error"
  | .notMember _ => "type_error.enum"
  | .tooShort _ => "value_error.any_str.min_length"
  | .tooLong _ => "value_error.any_str.max_length"
  | .tooSmall _ => "value_error.number.not_ge"
  | .tooLarge _ => "value_error.number.not_le"
  | .notMoment => "value_error.datetime"
  | .noMomentKind => "type_error"
  | .notJson _ _ => "value_error.jsondecode"
  | .rejected _ => "value_error"

def Problem.details? : Problem → Option Value
  | .notMember permitted => some (.record [("enum_values", .ofTexts permitted)])
  | .tooShort n => some (.record [("limit_value", .int n)])
  | .tooLong n => some (.record [("limit_value", .int n)])
  | .tooSmall n => some (.record [("limit_value", .int n)])
  | .tooLarge n => some (.record [("limit_value", .int n)])
  | .notJson e document => some (.record
      [("msg", .text e.expected.message), ("doc", .text document), ("pos", .int e.position),
       ("lineno", .int e.line), ("colno", .int e.column)])
  | _ => none

/-- A problem, and the way to what has it. -/
structure Error where
  location : List Step
  problem : Problem

def Step.toValue : Step → Value
  | .name s => .text s
  | .index i => .int i

def Error.toValue (e : Error) : Value :=
  .record [("loc", .list (e.location.map Step.toValue)), ("msg", .text e.problem.message),
    ("type", .text e.problem.code)]

def Error.toDetailedValue (e : Error) : Value :=
  .record <| [("loc", .list (e.location.map Step.toValue)), ("msg", .text e.problem.message),
    ("type", .text e.problem.code)] ++ (e.problem.details?.map (("ctx", ·))).toList

def Error.under (step : Step) (e : Error) : Error := { e with location := step :: e.location }

end Huntbook.Form
