import NestedTx.Proofs.Database.Effect
import NestedTx.Proofs.Transaction.Turns

namespace NestedTx

namespace Database

variable {db : Database} {texts : List String} {ref : Nat}

theorem begin_inTurn (tidy : db.Tidy) : tells TransactionError.isOutOfTurn db.begin.1 = false := by
  obtain ⟨_, _, free⟩ := tidy.clean.checkout
  simp only [begin]
  rcases lent : db.backend.checkout with ⟨error | connection, backend⟩
  · exact Backend.inTurn_of_checkout lent
  · have begins := ServerTransaction.begin_inTurn (free connection (by rw [lent])) backend
    dsimp only
    rcases begun : ServerTransaction.begin connection backend with ⟨error | carrier, backend'⟩
    · rw [begun] at begins
      exact begins
    · rfl

theorem beginOn_inTurn (tidy : db.Tidy) (ref : Nat) :
    tells DriverError.isOutOfTurn (db.beginOn ref).1 = false := by
  simp only [beginOn]
  cases known : db.connection? ref with
  | none => rfl
  | some connection =>
    have begins := ServerTransaction.begin_inTurn (tidy.free ref connection known) db.backend
    dsimp only
    rcases begun : ServerTransaction.begin connection db.backend with ⟨error | tx, backend⟩
    · rw [begun] at begins
      exact begins
    · rfl

theorem perform_inTurn {entry : Entry} (known : db.entries[ref]? = some entry)
    (holds : ∀ carrier, entry.transaction.carrier = some carrier → carrier.Holds texts)
    (call : Transaction.Call) (params : List Json.Value) :
    tells TransactionError.isOutOfTurn (db.perform call params ref).1 = false := by
  obtain ⟨alarms, did⟩ := perform_eq known call params
  rw [did]
  exact (entry.transaction.perform_step db.backend call).inTurn holds

theorem finish_inTurn (holds : ∀ tx, db.serverTransaction? ref = some tx → tx.Holds texts)
    (action : ExitAction) : tells DriverError.isOutOfTurn (db.finish action ref).1 = false := by
  cases kept : db.serverTransaction? ref with
  | none => cases action <;> simp only [finish, serverCommit, serverRollback, kept] <;> rfl
  | some tx =>
    have answered := (holds tx kept).finish_inTurn action db.backend
    cases action with
    | commit =>
      simp only [finish, serverCommit, kept]
      exact answered
    | rollback =>
      simp only [finish, serverRollback, kept]
      exact answered

theorem borrow_inTurn (db : Database) : tells DriverError.isOutOfTurn db.borrow.1 = false := by
  simp only [borrow]
  rcases lent : db.backend.checkout with ⟨error | connection, backend⟩
  · exact Backend.inTurn_of_checkout lent
  · rfl

theorem attach_inTurn (db : Database) : tells DriverError.isOutOfTurn db.attach.1 = false := by
  simp only [attach]
  rcases opened : db.backend.server.connect with ⟨error | link, server⟩
  · exact Server.inTurn_of_connect opened
  · rfl

theorem ping_inTurn (target : PingTarget) (db : Database) :
    tells DriverError.isOutOfTurn (db.ping target).1 = false := by
  cases target with
  | pool =>
    simp only [ping, pingPool]
    rcases lent : db.backend.checkout with ⟨error | connection, backend⟩
    · exact Backend.inTurn_of_checkout lent
    · exact connection.link.ping_inTurn backend.server
  | connection ref =>
    simp only [ping, pingConnection]
    cases db.connection? ref with
    | none => rfl
    | some connection => exact connection.link.ping_inTurn db.backend.server

theorem execute_inTurn (sql : String) (params : List Json.Value) (db : Database) :
    tells QueryError.isOutOfTurn (db.execute .database sql params).1 = false := by
  simp only [execute]
  rcases lent : db.backend.checkout with ⟨error | connection, backend⟩
  · exact Backend.inTurn_of_checkout lent
  · dsimp only
    rw [tells_mapError]
    exact connection.link.execute_inTurn backend.server sql

theorem fetch_inTurn (sql : String) (params : List Json.Value) (db : Database) :
    tells QueryError.isOutOfTurn (db.fetch .database sql params).1 = false := by
  simp only [fetch]
  rcases lent : db.backend.checkout with ⟨error | connection, backend⟩
  · exact Backend.inTurn_of_checkout lent
  · dsimp only
    rw [tells_mapError]
    exact connection.link.fetch_inTurn backend.server sql

theorem executeOn_inTurn (ref : Nat) (sql : String) (db : Database) :
    tells DriverError.isOutOfTurn (db.executeOn ref sql).1 = false := by
  simp only [executeOn]
  cases db.connection? ref with
  | none => rfl
  | some connection => exact connection.link.execute_inTurn db.backend.server sql

theorem fetchOn_inTurn (ref : Nat) (sql : String) (db : Database) :
    tells DriverError.isOutOfTurn (db.fetchOn ref sql).1 = false := by
  simp only [fetchOn]
  cases db.connection? ref with
  | none => rfl
  | some connection => exact connection.link.fetch_inTurn db.backend.server sql

theorem serverExecute_inTurn (ref : Nat) (sql : String) (db : Database) :
    tells DriverError.isOutOfTurn (db.serverExecute ref sql).1 = false := by
  simp only [serverExecute]
  cases db.serverTransaction? ref with
  | none => rfl
  | some tx => exact tx.execute_inTurn sql db.backend

theorem serverFetch_inTurn (ref : Nat) (sql : String) (db : Database) :
    tells DriverError.isOutOfTurn (db.serverFetch ref sql).1 = false := by
  simp only [serverFetch]
  cases db.serverTransaction? ref with
  | none => rfl
  | some tx => exact tx.fetch_inTurn sql db.backend

theorem tells_tell {ε α : Type} (test : DatabaseError → Bool) (ofError : ε → DatabaseError)
    (did : Except ε α × Database) :
    tells test (Database.tell ofError did).1 = tells (fun error => test (ofError error)) did.1 := by
  rw [Database.tell, tells_mapError, tells_map]

end Database

namespace Run

open Database

theorem Backed.inTurn {run : Run} (h : run.Backed) (action : Action) :
    tells DatabaseError.isOutOfTurn (action.perform run.db).1 = false := by
  cases action with
  | retain ref =>
    simp only [Action.perform]
    split <;> rfl
  | drop | expire | prune | giveBack | letGo | setFaults | answer => rfl
  | takeUp ref id settings =>
    simp only [Action.perform]
    rcases run.db.takeUp ref id settings with ⟨_ | _, _⟩ <;> rfl
  | call ref call params =>
    simp only [Action.perform]
    split
    · rename_i held
      obtain ⟨entry, known, _⟩ := exists_of_isHeld held
      rw [tells_tell]
      exact perform_inTurn known (h.holds_root known) call params
    · rfl
  | begin => exact (tells_tell _ _ _).trans (begin_inTurn h.tidy)
  | execute sql params => exact (tells_tell _ _ _).trans (run.db.execute_inTurn sql params)
  | fetch sql params => exact (tells_tell _ _ _).trans (run.db.fetch_inTurn sql params)
  | ping target => exact (tells_tell _ _ _).trans (run.db.ping_inTurn target)
  | borrow => exact (tells_tell _ _ _).trans run.db.borrow_inTurn
  | attach => exact (tells_tell _ _ _).trans run.db.attach_inTurn
  | executeOn ref sql => exact (tells_tell _ _ _).trans (run.db.executeOn_inTurn ref sql)
  | fetchOn ref sql => exact (tells_tell _ _ _).trans (run.db.fetchOn_inTurn ref sql)
  | beginOn ref => exact (tells_tell _ _ _).trans (beginOn_inTurn h.tidy ref)
  | finish action ref =>
    exact (tells_tell _ _ _).trans (finish_inTurn (fun _ kept => h.holds_handOpened kept) action)
  | serverExecute ref sql => exact (tells_tell _ _ _).trans (run.db.serverExecute_inTurn ref sql)
  | serverFetch ref sql => exact (tells_tell _ _ _).trans (run.db.serverFetch_inTurn ref sql)

end Run

end NestedTx
