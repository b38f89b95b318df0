import NestedTx.Query.Error

namespace NestedTx

inductive TransactionError
  | alreadyRolledBack (reason : String)
  | alreadyCommitted (reason : String)
  | commitFailed (cause : DriverError)
  | rollbackFailed (cause : DriverError)
  | beginFailed (cause : DriverError)
  | query (cause : QueryError)
deriving DecidableEq, Repr

namespace TransactionError

def nestedRolledBack : TransactionError :=
  .alreadyRolledBack "nested transaction already rolled back"

def rolledBack : TransactionError :=
  .alreadyRolledBack "transaction has already been rolled back"

def committed : TransactionError :=
  .alreadyCommitted "transaction has already been committed"

def cannotRollBack : TransactionError :=
  .alreadyCommitted "cannot roll back, transaction has already been committed"

def message : TransactionError → String
  | alreadyRolledBack reason => reason
  | alreadyCommitted reason => reason
  | commitFailed cause => "commit failed: " ++ cause.message
  | rollbackFailed cause => "unable to roll back: " ++ cause.message
  | beginFailed cause => "could not create transaction: " ++ cause.message
  | query cause => "query error: " ++ cause.message

def isStateError : TransactionError → Bool
  | alreadyRolledBack _ => true
  | alreadyCommitted _ => true
  | _ => false

def isDriverFailure : TransactionError → Bool
  | commitFailed _ => true
  | rollbackFailed _ => true
  | beginFailed _ => true
  | _ => false

end TransactionError

end NestedTx
