import Huntbook.Text.Printable

/-!
# Errors of the record store

Why the store refuses a statement.
-/

namespace Huntbook.Store

/-- Why a statement is refused. -/
inductive Error
  | notUnique (table column : String)
  | nullColumn (table column : String)
  | keyMismatch
  | noColumn (name : String)
  | badStatement (near : String)
  | badPiece (piece : String)
  | incomplete
  | wrongCount (places values : Nat)
  | several
  | nullCharacter
  | unread
  | tooNested
  | tooDeep
  | hexTooLarge (raw : String)
  | slotNumber
  | noTable (name : String)
  | ambiguous (name : String)
  | noFunction (name : String)
  | argumentCount (name : String)
  | aggregateMisuse (name : String)
  | noOrder (name : String)
  | rowMisuse
  | queryWidth (found wanted : Nat)
  | itemWidth (found wanted : Nat)
  | assignedWidth (columns values : Nat)
  | orderWithoutLimit
  | noSources
  | badEscape
  | overflow
  | full
  | tooLarge
  | unstorable (number : Nat) (kind : String)
  | unencodable (text : String)
  deriving DecidableEq

def Error.message : Error → String
  | .notUnique table column => s!"UNIQUE constraint failed: {table}.{column}"
  | .nullColumn table column => s!"NOT NULL constraint failed: {table}.{column}"
  | .keyMismatch => "datatype mismatch"
  | .noColumn name => s!"no such column: {name}"
  | .badStatement near => s!"near \"{near}\": syntax error"
  | .badPiece piece => s!"unrecognized token: \"{piece}\""
  | .incomplete => "incomplete input"
  | .wrongCount places values => "Incorrect number of bindings supplied. The current statement "
      ++ s!"uses {places}, and there are {values} supplied."
  | .several => "You can only execute one statement at a time."
  | .nullCharacter => "the query contains a null character"
  | .unread => "cannot commit transaction - SQL statements in progress"
  | .tooNested => "parser stack overflow"
  | .tooDeep => "Expression tree is too large (maximum depth 1000)"
  | .hexTooLarge raw => s!"hex literal too big: {raw}"
  | .slotNumber => "variable number must be between ?1 and ?250000"
  | .noTable name => s!"no such table: {name}"
  | .ambiguous name => s!"ambiguous column name: {name}"
  | .noFunction name => s!"no such function: {name}"
  | .argumentCount name => s!"wrong number of arguments to function {name}()"
  | .aggregateMisuse name => s!"misuse of aggregate function {name}()"
  | .noOrder name => s!"no such collation sequence: {name}"
  | .rowMisuse => "row value misused"
  | .queryWidth found wanted => s!"sub-select returns {found} columns - expected {wanted}"
  | .itemWidth found wanted =>
    s!"IN(...) element has {found} term" ++ (if found == 1 then "" else "s")
      ++ s!" - expected {wanted}"
  | .assignedWidth columns values => s!"{columns} columns assigned {values} values"
  | .orderWithoutLimit => "ORDER BY without LIMIT on UPDATE"
  | .noSources => "no tables specified"
  | .badEscape => "ESCAPE expression must be a single character"
  | .overflow => "integer overflow"
  | .full => "database or disk is full"
  | .tooLarge => "Python int too large to convert to SQLite INTEGER"
  | .unstorable n kind => s!"Error binding parameter {n}: type '{kind}' is not supported"
  | .unencodable text => Text.Bytes.refusal text

end Huntbook.Store
