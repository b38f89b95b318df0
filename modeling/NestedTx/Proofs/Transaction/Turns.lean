import NestedTx.Database.Error
import NestedTx.Proofs.Transaction.Call

namespace NestedTx

variable {ε δ α β : Type}

def tells (test : ε → Bool) : Except ε α → Bool
  | .error error => test error
  | .ok _ => false

@[simp] theorem tells_map (test : ε → Bool) (f : α → β) (answer : Except ε α) :
    tells test (answer.map f) = tells test answer := by
  cases answer <;> rfl

@[simp] theorem tells_mapError (test : δ → Bool) (f : ε → δ) (answer : Except ε α) :
    tells test (answer.mapError f) = tells (fun error => test (f error)) answer := by
  cases answer <;> rfl

def DriverError.isOutOfTurn : DriverError → Bool
  | .transactionOpen => true
  | .noTransaction => true
  | _ => false

def QueryError.isOutOfTurn : QueryError → Bool
  | .driver cause => cause.isOutOfTurn
  | _ => false

def TransactionError.isOutOfTurn : TransactionError → Bool
  | .commitFailed cause => cause.isOutOfTurn
  | .rollbackFailed cause => cause.isOutOfTurn
  | .beginFailed cause => cause.isOutOfTurn
  | .query cause => cause.isOutOfTurn
  | _ => false

def DatabaseError.isOutOfTurn : DatabaseError → Bool
  | .driver cause => cause.isOutOfTurn
  | .transaction cause => cause.isOutOfTurn
  | .query cause => cause.isOutOfTurn
  | .ping cause => cause.lastError.isOutOfTurn
  | _ => false

open DriverError (isOutOfTurn)

theorem Server.statementCount_inTurn (sql : String) :
    tells isOutOfTurn (statementCount sql) = false := by
  unfold statementCount
  split <;> rfl

namespace Link

variable (link : Link) (server : Server)

theorem begin_outOfTurn : tells isOutOfTurn (link.begin server).1 = link.inTransaction := by
  simp only [begin, inTransaction]
  cases link.pending with
  | some texts => rfl
  | none =>
    dsimp only
    split <;> rfl

theorem commit_outOfTurn : tells isOutOfTurn (link.commit server).1 = !link.inTransaction := by
  simp only [commit, inTransaction]
  cases link.pending with
  | none => rfl
  | some texts =>
    dsimp only
    split <;> rfl

theorem rollback_outOfTurn : tells isOutOfTurn (link.rollback server).1 = !link.inTransaction := by
  simp only [rollback, inTransaction]
  cases link.pending with
  | none => rfl
  | some texts =>
    dsimp only
    split <;> rfl

theorem ping_inTurn : tells isOutOfTurn (link.ping server).1 = false := by
  simp only [ping]
  split <;> rfl

theorem execute_inTurn (sql : String) : tells isOutOfTurn (link.execute sql server).1 = false := by
  rw [execute_answer]
  exact Server.statementCount_inTurn sql

theorem fetch_inTurn (sql : String) : tells isOutOfTurn (link.fetch sql server).1 = false := by
  have counted := Server.statementCount_inTurn sql
  simp only [fetch]
  cases answer : Server.statementCount sql with
  | error error =>
    rw [answer] at counted
    exact counted
  | ok count => rfl

end Link

theorem Server.inTurn_of_connect {server server' : Server} {error : DriverError}
    (refused : server.connect = (.error error, server')) : error.isOutOfTurn = false := by
  simp only [connect] at refused
  split at refused <;> cases refused
  rfl

theorem Backend.inTurn_of_checkout {backend backend' : Backend} {error : DriverError}
    (refused : backend.checkout = (.error error, backend')) : error.isOutOfTurn = false := by
  simp only [checkout] at refused
  split at refused
  · cases refused
  · split at refused
    · cases refused
      rfl
    · rcases opened : backend.server.connect with ⟨error | link, server⟩
      · rw [opened] at refused
        cases refused
        exact Server.inTurn_of_connect opened
      · rw [opened] at refused
        cases refused

namespace ServerTransaction

variable {tx : ServerTransaction} {texts : List String}

theorem begin_inTurn {connection : Connection} (free : connection.link.pending = none)
    (backend : Backend) : tells isOutOfTurn (begin connection backend).1 = false := by
  have answered := connection.link.begin_outOfTurn backend.server
  have closed : connection.link.inTransaction = false := by simp [Link.inTransaction, free]
  rw [closed] at answered
  simp only [begin]
  rcases begun : connection.link.begin backend.server with ⟨error | _, link, server⟩
  · rw [begun] at answered
    exact answered
  · rfl

theorem finish_answer (isOpen : tx.done = false) (action : ExitAction) (backend : Backend) :
    (tx.finish action backend).1 = match action with
      | .commit => (tx.connection.link.commit backend.server).1
      | .rollback => (tx.connection.link.rollback backend.server).1 := by
  have other : ¬tx.done = true := by simp [isOpen]
  cases action with
  | commit =>
    simp only [finish, commit, if_neg other]
    rcases tx.connection.link.commit backend.server with ⟨_ | _, _, _⟩ <;> rfl
  | rollback =>
    simp only [finish, rollback, if_neg other]
    rcases tx.connection.link.rollback backend.server with ⟨_ | _, _, _⟩ <;> rfl

theorem Holds.finish_inTurn (h : tx.Holds texts) (action : ExitAction) (backend : Backend) :
    tells isOutOfTurn (tx.finish action backend).1 = false := by
  cases spent : tx.done with
  | true =>
    obtain ⟨connection, done⟩ := tx
    cases spent
    cases action <;> rfl
  | false =>
    have waiting : tx.connection.link.inTransaction = true := by
      rw [Holds, spent] at h
      simp [Link.inTransaction, h]
    rw [finish_answer spent]
    cases action with
    | commit =>
      dsimp only
      rw [Link.commit_outOfTurn, waiting]
      rfl
    | rollback =>
      dsimp only
      rw [Link.rollback_outOfTurn, waiting]
      rfl

theorem execute_inTurn (sql : String) (tx : ServerTransaction) (backend : Backend) :
    tells isOutOfTurn (tx.execute sql backend).1 = false := by
  simp only [execute, Connection.execute]
  split
  · rfl
  · exact tx.connection.link.execute_inTurn backend.server sql

theorem fetch_inTurn (sql : String) (tx : ServerTransaction) (backend : Backend) :
    tells isOutOfTurn (tx.fetch sql backend).1 = false := by
  simp only [fetch, Connection.fetch]
  split
  · rfl
  · exact tx.connection.link.fetch_inTurn backend.server sql

end ServerTransaction

theorem kindOf_inTurn (sql : String) : tells QueryError.isOutOfTurn (kindOf sql) = false := by
  rw [kindOf, tells_mapError]
  cases Sql.classify sql with
  | error failed => cases failed <;> rfl
  | ok kind => rfl

theorem inTurn_of_barred {sql : String} {error : QueryError} (bar : barred? sql = some error) :
    error.isOutOfTurn = false := by
  have classified := kindOf_inTurn sql
  rw [barred?] at bar
  cases known : kindOf sql with
  | error cause =>
    rw [known] at bar classified
    cases bar
    exact classified
  | ok kind =>
    rw [known] at bar
    cases kind <;> cases bar
    rfl

namespace Transaction

variable {tx tx' : Transaction} {backend backend' : Backend} {texts : List String}

theorem Attempt.inTurn {action : ExitAction} {result : Except DriverError Unit}
    (attempt : Attempt action tx backend result tx' backend')
    (holds : ∀ carrier, tx.carrier = some carrier → carrier.Holds texts) :
    tells TransactionError.isOutOfTurn (result.mapError (refusal action)) = false := by
  have passes (cause : DriverError) : (refusal action cause).isOutOfTurn = cause.isOutOfTurn := by
    cases action <;> rfl
  simp only [tells_mapError, passes]
  cases attempt with
  | missing none => rfl
  | @refused carrier _ _ _ some finish =>
    have answered := (holds carrier some).finish_inTurn action backend
    rw [finish] at answered
    exact answered
  | done some finish => rfl

theorem Step.inTurn {call : Call} {answer : Except TransactionError Unit}
    (step : Step tx backend call answer tx' backend')
    (holds : ∀ carrier, tx.carrier = some carrier → carrier.Holds texts) :
    tells TransactionError.isOutOfTurn answer = false := by
  cases step with
  | lateForAll | lateForRoot | lateForCommit | entered | noted | left | closed => rfl
  | lateForLevel whole late asks => rcases asks with ⟨_, rfl⟩ | ⟨_, rfl⟩ <;> rfl
  | @barred _ sql error bar asks =>
    exact inTurn_of_barred bar
  | committing undecided root attempt => exact attempt.inTurn holds
  | rollingBack whole uncommitted attempt => exact attempt.inTurn holds
  | leaving whole uncommitted root attempt => exact attempt.inTurn holds
  | @executed carrier _ sql _ _ some free run =>
    have answered := carrier.execute_inTurn sql backend
    rw [run] at answered
    rw [tells_mapError, tells_map]
    exact answered
  | @fetched carrier sql _ _ some free run =>
    have answered := carrier.fetch_inTurn sql backend
    rw [run] at answered
    rw [tells_mapError, tells_map]
    exact answered

end Transaction

end NestedTx
