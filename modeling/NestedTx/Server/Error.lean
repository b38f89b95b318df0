namespace NestedTx

inductive DriverError
  | connection (reason : String)
  | invalid (reason : String)
  | transactionOpen
  | noTransaction
  | closed
  | poolExhausted (limit : Nat)
  | server (reason : String)
deriving DecidableEq, Repr

namespace DriverError

def message : DriverError → String
  | connection reason => "connection failed: " ++ reason
  | invalid reason => "syntax error: " ++ reason
  | transactionOpen => "a transaction is already open on this connection"
  | noTransaction => "no transaction is open on this connection"
  | closed => "transaction handle is closed"
  | poolExhausted limit => "connection pool exhausted (" ++ toString limit ++ " connections in use)"
  | server reason => "server error: " ++ reason

def isConnectionError : DriverError → Bool
  | connection _ => true
  | _ => false

def isTransient : DriverError → Bool
  | connection _ => true
  | poolExhausted _ => true
  | _ => false

end DriverError

end NestedTx
