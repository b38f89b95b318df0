import NestedTx.Duration
import NestedTx.Pool
import NestedTx.Transaction.Error
import NestedTx.Transaction.Status

/-!
Transactions that can be entered again and again. One transaction on the server carries all levels.
A nested level is only a status on a stack: its commit is a note, and the root's commit is the one
that reaches the server. A rollback reaches the server from any level, and ends the transaction for
all of them.
-/

namespace NestedTx

structure TransactionSettings where
  strict : Bool
  leakGrace : Duration
  verbose : Bool
deriving DecidableEq, Repr

inductive Watchdog
  | absent
  | armed
  | disarmed
  | expired
deriving DecidableEq, Repr

def Watchdog.disarm : Watchdog → Watchdog
  | .armed => .disarmed
  | watchdog => watchdog

structure Transaction where
  id : String
  settings : TransactionSettings
  /-- The transaction on the server, until it is committed or rolled back. -/
  carrier : Option ServerTransaction
  status : Status
  /-- The statuses of the levels around the innermost one, nearest first. -/
  outer : List Status
  /-- The status as it is seen without waiting for the transaction. -/
  shown : Status
  carrierCommitted : Bool
  rolledBack : Bool
  watchdog : Watchdog
  leaked : Bool
deriving DecidableEq, Repr

structure Snapshot where
  id : String
  status : Status
  depth : Nat
  rolledBack : Bool
  finalized : Bool
  leaked : Bool
deriving DecidableEq, Repr

inductive ExitAction
  | commit
  | rollback
deriving DecidableEq, Repr

structure FailedExit where
  action : ExitAction
  cause : DriverError
  seen : Snapshot
deriving DecidableEq, Repr

namespace FailedExit

def error (failed : FailedExit) : TransactionError :=
  match failed.action with
  | .commit => .commitFailed failed.cause
  | .rollback => .rollbackFailed failed.cause

end FailedExit

namespace Transaction

def root (id : String) (carrier : ServerTransaction) (settings : TransactionSettings) :
    Transaction where
  id
  settings
  carrier := some carrier
  status := .pending
  outer := []
  shown := .pending
  carrierCommitted := false
  rolledBack := false
  watchdog := if settings.strict then .armed else .absent
  leaked := false

def depth (tx : Transaction) : Nat := tx.outer.length

def isFinalized (tx : Transaction) : Bool := tx.carrier.isNone

def snapshot (tx : Transaction) : Snapshot :=
  ⟨tx.id, tx.status, tx.depth, tx.rolledBack, tx.isFinalized, tx.leaked⟩

def setStatus (status : Status) (tx : Transaction) : Transaction :=
  { tx with status, shown := status }

def push (tx : Transaction) : Transaction :=
  { tx with outer := tx.status :: tx.outer }.setStatus .pending

def pop (tx : Transaction) : Transaction :=
  match tx.outer with
  | [] => tx
  | saved :: outer => { tx with outer }.setStatus saved

def letGo (carrier : ServerTransaction) (tx : Transaction) (backend : Backend) :
    Transaction × Backend :=
  ({ tx with carrier := none, watchdog := tx.watchdog.disarm }, backend.release carrier.connection)

def serverCommit (tx : Transaction) (backend : Backend) :
    Except DriverError Unit × Transaction × Backend :=
  match tx.carrier with
  | none => (.error .closed, tx, backend)
  | some carrier =>
    match carrier.commit backend with
    | (.error error, carrier, backend) => (.error error, { tx with carrier := some carrier }, backend)
    | (.ok _, carrier, backend) => (.ok (), letGo carrier { tx with carrierCommitted := true } backend)

def serverRollback (tx : Transaction) (backend : Backend) :
    Except DriverError Unit × Transaction × Backend :=
  match tx.carrier with
  | none => (.error .closed, tx, backend)
  | some carrier =>
    match carrier.rollback backend with
    | (.error error, carrier, backend) => (.error error, { tx with carrier := some carrier }, backend)
    | (.ok _, carrier, backend) => (.ok (), letGo carrier tx backend)

def begin (tx : Transaction) : Except TransactionError Transaction :=
  if tx.rolledBack then .error .nestedRolledBack
  else if tx.carrierCommitted then .error .committed
  else .ok tx.push

def commit (tx : Transaction) (backend : Backend) :
    Except TransactionError Unit × Transaction × Backend :=
  if tx.rolledBack then (.error .nestedRolledBack, tx, backend)
  else if tx.status = .committed then (.error .committed, tx, backend)
  else if tx.status = .rolledBack then (.error .rolledBack, tx, backend)
  else if tx.outer.isEmpty then
    match tx.serverCommit backend with
    | (.error error, tx, backend) => (.error (.commitFailed error), tx.setStatus .errored, backend)
    | (.ok _, tx, backend) => (.ok (), tx.setStatus .committed, backend)
  else (.ok (), tx.setStatus .committed, backend)

def rollback (tx : Transaction) (backend : Backend) :
    Except TransactionError Unit × Transaction × Backend :=
  if tx.rolledBack then (.error .nestedRolledBack, tx, backend)
  else if tx.status = .committed then (.error .cannotRollBack, tx, backend)
  else
    match tx.serverRollback backend with
    | (.error error, tx, backend) => (.error (.rollbackFailed error), tx.setStatus .errored, backend)
    | (.ok _, tx, backend) =>
      (.ok (), { tx.setStatus .rolledBack with rolledBack := true }, backend)

def failedExit (action : ExitAction) (cause : DriverError) (tx : Transaction) (backend : Backend) :
    Except FailedExit Unit × Transaction × Backend :=
  let tx := (tx.setStatus .errored).pop
  (.error ⟨action, cause, tx.snapshot⟩, tx, backend)

/-- Leave the innermost level. If nothing was decided the level counts as committed, and at the
root that means a commit on the server. -/
def autoCommit (tx : Transaction) (backend : Backend) :
    Except FailedExit Unit × Transaction × Backend :=
  if tx.rolledBack || tx.status = .rolledBack || tx.status = .committed then (.ok (), tx.pop, backend)
  else if !tx.outer.isEmpty then (.ok (), tx.pop, backend)
  else
    match tx.serverCommit backend with
    | (.error error, tx, backend) => failedExit .commit error tx backend
    | (.ok _, tx, backend) => (.ok (), (tx.setStatus .committed).pop, backend)

/-- Leave the innermost level. If nothing was decided the whole transaction is rolled back. -/
def autoRollback (tx : Transaction) (backend : Backend) :
    Except FailedExit Unit × Transaction × Backend :=
  if tx.rolledBack || tx.status = .committed then (.ok (), tx.pop, backend)
  else
    match tx.serverRollback backend with
    | (.error error, tx, backend) => failedExit .rollback error tx backend
    | (.ok _, tx, backend) =>
      (.ok (), { tx.setStatus .rolledBack with rolledBack := true }.pop, backend)

def exit (action : ExitAction) (tx : Transaction) (backend : Backend) :
    Except FailedExit Unit × Transaction × Backend :=
  match action with
  | .commit => tx.autoCommit backend
  | .rollback => tx.autoRollback backend

def execute (sql : String) (tx : Transaction) (backend : Backend) :
    Except QueryError Nat × Transaction × Backend :=
  match barred? sql with
  | some error => (.error error, tx, backend)
  | none =>
    match tx.carrier with
    | none => (.error (.driver .closed), tx, backend)
    | some carrier =>
      match carrier.execute sql backend with
      | (result, carrier, backend) =>
        (result.mapError .driver, { tx with carrier := some carrier }, backend)

def fetch (sql : String) (tx : Transaction) (backend : Backend) :
    Except QueryError (List Row) × Backend :=
  match barred? sql with
  | some error => (.error error, backend)
  | none =>
    match tx.carrier with
    | none => (.error (.driver .closed), backend)
    | some carrier =>
      match carrier.fetch sql backend with
      | (result, backend) => (result.mapError .driver, backend)

def abandon (tx : Transaction) (backend : Backend) : Transaction × Backend :=
  match tx.carrier with
  | none => ({ tx with watchdog := tx.watchdog.disarm }, backend)
  | some carrier => letGo carrier tx backend

/-- The watchdog's time is up. An open transaction whose innermost level is pending counts as
forgotten. -/
def expire (tx : Transaction) : Transaction :=
  match tx.watchdog with
  | .armed =>
    { tx with
      watchdog := .expired
      leaked := tx.leaked || (!tx.rolledBack && tx.shown.isPending) }
  | _ => tx

def leaksNow (tx : Transaction) : Bool :=
  tx.watchdog = .armed && !tx.rolledBack && tx.shown.isPending

end Transaction

end NestedTx
