import NestedTx.Sql.Grammar.Statement

/-!
What a script does to the database. A script of several statements counts as the strongest of them:
transaction control before definitions, those before changes to rows, and only a script that does
nothing but query is a read.
-/

namespace NestedTx.Sql

inductive Kind
  | read
  | other
  | write
  | schema
  | transactionControl
deriving DecidableEq, Repr

def Kind.isCacheable (kind : Kind) : Bool :=
  kind == .read

def Statement.kind : Statement → Kind
  | .query _ => .read
  | .change _ => .write
  | .delete _ => .write
  | .createTable .. => .schema
  | .createIndex _ => .schema
  | .alterTable .. => .schema
  | .drop .. => .schema
  | .startTransaction => .transactionControl
  | .commit => .transactionControl
  | .rollback => .transactionControl
  | .savepoint _ => .transactionControl
  | .release _ => .transactionControl
  | _ => .other

def Kind.ofScript (kinds : List Kind) : Kind :=
  if kinds.contains .transactionControl then .transactionControl
  else if kinds.contains .schema then .schema
  else if kinds.contains .write then .write
  else if kinds.all (· == .read) then .read
  else .other

def controlWords : List (List Char) :=
  ["BEGIN", "START", "COMMIT", "END", "ROLLBACK", "ABORT", "SAVEPOINT", "RELEASE"].map String.toList

inductive ClassifyError
  | empty
  | invalid (error : ParseError)
deriving DecidableEq, Repr

def classify (text : String) : Except ClassifyError Kind :=
  let chars := Text.statementChars text.toList
  if chars.isEmpty then .error .empty
  else if controlWords.contains (Text.upperKey (Text.firstWord chars)) then .ok .transactionControl
  else match Script.parse chars with
    | .error error => .error (.invalid error)
    | .ok statements => .ok (Kind.ofScript (statements.map Statement.kind))

end NestedTx.Sql
