import NestedTx.Reachability.Basic
import NestedTx.Transaction.Basic

namespace NestedTx

inductive AlarmKind
  | leak
  | commitFailed
  | rollbackFailed
  | beginFailed
  | unreachable
deriving DecidableEq, Repr

def AlarmKind.name : AlarmKind → String
  | leak => "leak"
  | commitFailed => "commit_failed"
  | rollbackFailed => "rollback_failed"
  | beginFailed => "begin_failed"
  | unreachable => "ping_exhausted"

inductive Alarm
  | leak (id : String) (openFor : Nat)
  | exit (failed : FailedExit)
  | beginFailed (cause : DriverError)
  | unreachable (cause : Unreachable)
deriving DecidableEq, Repr

namespace Alarm

def kind : Alarm → AlarmKind
  | leak _ _ => .leak
  | exit failed =>
    match failed.action with
    | .commit => .commitFailed
    | .rollback => .rollbackFailed
  | beginFailed _ => .beginFailed
  | unreachable _ => .unreachable

def message : Alarm → String
  | leak id openFor =>
    "a database transaction was not closed (tx " ++ id ++ ", open for " ++ toString openFor ++ "s)"
  | exit failed =>
    let verb := match failed.action with
      | .commit => "commit"
      | .rollback => "roll back"
    "could not " ++ verb ++ " transaction " ++ failed.seen.id ++ ": " ++ failed.cause.message
  | beginFailed cause => "could not create transaction: " ++ cause.message
  | unreachable cause => "could not ping database: " ++ cause.message

end Alarm

end NestedTx
