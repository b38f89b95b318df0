import NestedTx.Json.Reader
import NestedTx.Reachability.Basic
import NestedTx.Transaction.Error

namespace NestedTx

inductive InputError
  | notFound
  | notText
deriving DecidableEq, Repr

def InputError.message : InputError → String
  | notFound => "No such file or directory (os error 2)"
  | notText => "stream did not contain valid UTF-8"

inductive DatabaseError
  | driver (cause : DriverError)
  | transaction (cause : TransactionError)
  | query (cause : QueryError)
  | ping (cause : Unreachable)
  | noTransaction
  | invalidSettings (reason : String)
  | settingsText (cause : Json.ReadError)
  | input (cause : InputError)
deriving DecidableEq, Repr

def DatabaseError.message : DatabaseError → String
  | driver cause => "driver error: " ++ cause.message
  | transaction cause => "transaction error: " ++ cause.message
  | query cause => "query error: " ++ cause.message
  | ping cause => "ping error: " ++ cause.message
  | noTransaction => "no transaction open"
  | invalidSettings reason => "invalid configuration: " ++ reason
  | settingsText cause => "config parse error: " ++ cause.message
  | input cause => "io error: " ++ cause.message

end NestedTx
