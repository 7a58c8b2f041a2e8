import Huntbook.Fault
import Huntbook.Text.Case
import Huntbook.Text.Pieces

/-!
# Asking values

Operations that a value answers only if it is of the right kind. Each one gives the fault that
names the kind it met otherwise.
-/

namespace Huntbook.Value

def getOr (v : Value) (name : String) (default : Value) : Try Value :=
  match v with
  | .map entries => .ok ((find? entries (.text name)).getD default)
  | v => .error (.noOperation v.kind "get")

def get (v : Value) (name : String) : Try Value := v.getOr name .null

def item (v : Value) (name : String) : Try Value :=
  match v with
  | .map entries =>
    match find? entries (.text name) with
    | some x => .ok x
    | none => .error (.noEntry (.text name))
  | .list _ | .tuple _ => .error (.mismatch .listIndex)
  | .text _ => .error (.mismatch .textIndex)
  | v => .error (.mismatch (.noSubscript v.kind))

def entries (v : Value) : Try Entries :=
  match v with
  | .map entries => .ok entries
  | v => .error (.noOperation v.kind "items")

def asText (v : Value) (name : String) : Try String :=
  match v with
  | .text s => .ok s
  | v => .error (.noOperation v.kind name)

def bytesNeeded : Fault := .mismatch (.other "a bytes-like object is required, not 'str'")

def asCut (v : Value) : Try String :=
  match v with
  | .bytes _ => .error bytesNeeded
  | v => v.asText "split"

def lower (v : Value) : Try String := (v.asText "lower").map Text.lower

def lowered : Value → Try Value
  | .bytes data => .ok (.bytes (data.map fun b => if 65 ≤ b && b ≤ 90 then b + 32 else b))
  | v => v.lower.map .text

def uppered : Value → Try Value
  | .bytes data => .ok (.bytes (data.map fun b => if 97 ≤ b && b ≤ 122 then b - 32 else b))
  | v => (v.asText "upper").map fun s => .text (Text.upper s)

def holdsFold (v : Value) (wanted : String) : Try Bool := do
  match ← v.lowered with
  | .text s => return Text.contains s wanted
  | _ => throw bytesNeeded

def iterate (v : Value) : Try (List Value) :=
  match v with
  | .list items => .ok items
  | .tuple items => .ok items
  | .set items => .ok items
  | .map entries => .ok (entries.map (·.1))
  | .text s => .ok (s.toList.map fun c => .text c.toString)
  | .bytes data => .ok (data.map fun b => .int b.toNat)
  | v => .error (.mismatch (.notIterable v.kind))

/-- The text of a value, unless a number in it is too long to be written. -/
def written (v : Value) : Try String :=
  if v.wholes.any Decimal.isLongWhole then .error (.refused Decimal.longWhole) else .ok v.plain

def keyFault (v : Value) : Fault := .mismatch (.unhashable v.kind)

def joinTexts (sep : String) (items : List Value) : Try String := do
  let texts ← items.zipIdx.mapM fun
    | (.text s, _) => Except.ok s
    | (v, i) => .error (.mismatch (.notJoinable i v.kind))
  return sep.intercalate texts

end Huntbook.Value
