import NestedTx.Cache.Error
import NestedTx.Server.Error
import NestedTx.Sql.Kind

namespace NestedTx

inductive QueryError
  | driver (cause : DriverError)
  | invalid (reason : String)
  | empty
  | control (statement : String)
  | cache (cause : CacheError)
deriving DecidableEq, Repr

namespace QueryError

def message : QueryError → String
  | driver cause => "driver error: " ++ cause.message
  | invalid reason => "syntax error: " ++ reason
  | empty => "empty query"
  | control statement => "transaction control statement not allowed here: " ++ statement
  | cache cause => "cache error: " ++ cause.message

def ofClassify : Sql.ClassifyError → QueryError
  | .empty => .empty
  | .invalid error => .invalid ("sql parser error: " ++ error.message)

end QueryError

def kindOf (sql : String) : Except QueryError Sql.Kind :=
  (Sql.classify sql).mapError QueryError.ofClassify

def barred? (sql : String) : Option QueryError :=
  match kindOf sql with
  | .error error => some error
  | .ok .transactionControl => some (.control (Text.trim sql))
  | .ok _ => none

end NestedTx
