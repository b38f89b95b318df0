import NestedTx.Database.Scope
import NestedTx.Proofs.Database.Moves
import NestedTx.Proofs.Transaction.Finality
import NestedTx.Proofs.Transaction.Levels

namespace NestedTx

open Server (Change)

structure Server.Willing (server : Server) : Prop extends server.Obliging where
  connect : server.faults.connect = false
  begin : server.faults.begin = false

theorem Backend.checkout_ok {backend : Backend} (connects : backend.server.faults.connect = false)
    (room : backend.pool.idle ≠ [] ∨ backend.pool.created < backend.pool.limit) :
    ∃ connection backend', backend.checkout = (.ok connection, backend') ∧
      backend'.server.faults = backend.server.faults := by
  simp only [checkout]
  split
  · exact ⟨_, _, rfl, rfl⟩
  · rename_i idle
    have below : ¬backend.pool.limit ≤ backend.pool.created := by
      rcases room with some | below
      · exact absurd idle some
      · exact Nat.not_le_of_lt below
    rw [if_neg below]
    simp only [Server.connect, connects, Bool.false_eq_true, if_false]
    exact ⟨_, _, rfl, rfl⟩

theorem ServerTransaction.begin_ok {connection : Connection} {backend : Backend}
    (free : connection.link.pending = none) (begins : backend.server.faults.begin = false) :
    ∃ server', ServerTransaction.begin connection backend =
        (.ok ⟨{ connection with link := ⟨some []⟩ }, false⟩, { backend with server := server' }) ∧
      Change [] 0 0 backend.server server' := by
  have answer : (connection.link.begin backend.server).1 = .ok () := by
    simp [Link.begin, free, begins]
  rcases connection.link.begin_cases backend.server with ⟨_, _, he, _⟩ | ⟨server', he, change⟩
  · rw [he] at answer
    cases answer
  · exact ⟨server', by simp only [ServerTransaction.begin, he], change⟩

namespace Database

variable {origin : Server} {ref depth handles : Nat} {texts : List String} {db : Database}
  {tx tx' : Transaction} {answer : Except TransactionError Unit} {backend' : Backend}

def Entered (origin : Server) (ref depth : Nat) (texts : List String) (db : Database) : Prop :=
  ∃ tx, db.entries[ref]? = some ⟨tx, depth + 1⟩ ∧ tx.Entered texts depth ∧
    Change [] 0 0 origin db.backend.server

def Undone (origin : Server) (ref depth : Nat) (db : Database) : Prop :=
  ∃ tx, db.entries[ref]? = some ⟨tx, depth + 1⟩ ∧ tx.Undone depth ∧
    Change [] 0 1 origin db.backend.server

def Over (origin : Server) (ref : Nat) (texts : List String) (commits rollbacks : Nat)
    (db : Database) : Prop :=
  ∃ tx, db.entries[ref]? = some ⟨tx, 0⟩ ∧ tx.carrier = none ∧ tx.depth = 0 ∧
    Change texts commits rollbacks origin db.backend.server

namespace Over

variable {commits rollbacks : Nat}

theorem change (h : db.Over origin ref texts commits rollbacks) :
    Change texts commits rollbacks origin db.backend.server := by
  obtain ⟨_, _, _, _, change⟩ := h
  exact change

theorem closed (h : db.Over origin ref texts commits rollbacks) :
    (db.transaction ref).isFinalized = true ∧ (db.transaction ref).depth = 0 ∧
      db.isHeld ref = false := by
  obtain ⟨tx, known, none, depth, _⟩ := h
  rw [transaction_of_known known]
  exact ⟨by simp [Transaction.isFinalized, none], depth, by simp [isHeld, known]⟩

end Over

theorem update_known (known : db.entries[ref]? = some ⟨tx, handles⟩) (tx' : Transaction)
    (backend' : Backend) : (db.update ref tx' backend').entries[ref]? = some ⟨tx', handles⟩ ∧
      (db.update ref tx' backend').backend = backend' := by
  refine ⟨?_, rfl⟩
  simp [update, setTransaction, known]

theorem finishAs_known (known : db.entries[ref]? = some ⟨tx, handles + 2⟩) {action : ExitAction}
    (did : (Transaction.Call.exit action).perform tx db.backend = (answer, tx', backend'))
    (onExit : ExitAction) : ∃ db', (⟨ref, onExit⟩ : Scope).finishAs action db = (answer, db') ∧
      db'.entries[ref]? = some ⟨tx', handles + 1⟩ ∧ db'.backend = backend' := by
  obtain ⟨left, he, known', same⟩ := perform_known known [] did
  have hexit : db.exit action ref = (answer, left) := he
  obtain ⟨dropped, backend⟩ := drop_of_more known'
  refine ⟨left.drop ref, ?_, dropped, backend.trans same⟩
  simp only [Scope.finishAs, hexit]

theorem finishAs_last (known : db.entries[ref]? = some ⟨tx, 1⟩) {action : ExitAction}
    (did : (Transaction.Call.exit action).perform tx db.backend = (answer, tx', backend'))
    (spent : tx'.carrier = none) (onExit : ExitAction) :
    ∃ db' tx'', (⟨ref, onExit⟩ : Scope).finishAs action db = (answer, db') ∧
      db'.entries[ref]? = some ⟨tx'', 0⟩ ∧ tx''.carrier = none ∧ tx''.depth = tx'.depth ∧
      db'.backend = backend' := by
  obtain ⟨left, he, known', same⟩ := perform_known known [] did
  have hexit : db.exit action ref = (answer, left) := he
  obtain ⟨hlt, _⟩ := List.getElem?_eq_some_iff.mp known'
  have known' : left.entries[ref]? = some ⟨tx', 1⟩ := known'
  refine ⟨left.drop ref, { tx' with watchdog := tx'.watchdog.disarm }, ?_, ?_, spent, rfl, ?_⟩
  · simp only [Scope.finishAs, hexit]
  · simp only [drop, known', Transaction.abandon, spent]
    exact List.getElem?_set_self hlt
  · simp only [drop, known', Transaction.abandon, spent]
    exact same

theorem begin_ok (tidy : db.Tidy) (willing : db.backend.server.Willing)
    (room : db.backend.pool.idle ≠ [] ∨ db.backend.pool.created < db.backend.pool.limit) :
    ∃ db', db.begin = (.ok db.entries.length, db') ∧
      db'.Entered db.backend.server db.entries.length 0 [] := by
  obtain ⟨_, lent, free⟩ := tidy.clean.checkout
  obtain ⟨connection, backend, hc, faults⟩ := Backend.checkout_ok willing.connect room
  rw [hc] at lent free
  have begins : backend.server.faults.begin = false := by rw [faults, willing.begin]
  obtain ⟨server', hb, change⟩ := ServerTransaction.begin_ok (free connection rfl) begins
  have holds : (⟨{ connection with link := ⟨some []⟩ }, false⟩ : ServerTransaction).Holds [] := rfl
  simp only [Database.begin, hc, hb]
  refine ⟨_, rfl, ?_⟩
  have entered := Transaction.Entered.root (Identifier.ofSerial db.nextSerial)
    db.settings.forTransactions holds rfl
  refine ⟨_, ?_, entered, lent.trans change⟩
  simp [adopt, prune]

namespace Entered

theorem depth_eq (h : db.Entered origin ref depth texts) : (db.transaction ref).depth = depth := by
  obtain ⟨tx, known, entered, _⟩ := h
  rw [transaction_of_known known]
  exact entered.length_outer

theorem execute (h : db.Entered origin ref depth texts) {sql : String} (free : barred? sql = none)
    {count : Nat} (counts : Server.statementCount sql = .ok count) (params : List Json.Value) :
    ∃ db', db.execute (.transaction ref) sql params = (.ok count, db') ∧
      db'.Entered origin ref depth (texts ++ [sql]) := by
  obtain ⟨tx, known, entered, change⟩ := h
  obtain ⟨tx', server', did, change', entered'⟩ := entered.execute free counts db.backend
  have htx : db.transaction ref = tx := transaction_of_known known
  obtain ⟨known', _⟩ := update_known known tx' { db.backend with server := server' }
  refine ⟨db.update ref tx' { db.backend with server := server' }, ?_, tx', known', entered',
    change.trans change'⟩
  simp only [Database.execute, htx, did]

theorem rollback (h : db.Entered origin ref depth texts) (obliging : origin.Obliging) :
    ∃ db', db.rollback ref = (.ok (), db') ∧ db'.Undone origin ref depth := by
  obtain ⟨tx, known, entered, change⟩ := h
  obtain ⟨tx', backend', did, undone, change'⟩ := entered.rollback (change.obliging obliging)
  have htx : db.transaction ref = tx := transaction_of_known known
  obtain ⟨known', _⟩ := update_known known tx' backend'
  refine ⟨db.update ref tx' backend', ?_, tx', known', undone, change.trans change'⟩
  simp only [Database.rollback, htx, did]

theorem enter (h : db.Entered origin ref depth texts) :
    ∃ db', db.enterNested ref = (.ok ⟨ref, .rollback⟩, db') ∧
      db'.Entered origin ref (depth + 1) texts := by
  obtain ⟨tx, known, entered, change⟩ := h
  obtain ⟨did, entered'⟩ := entered.enter db.backend
  obtain ⟨db', he, known', same⟩ := perform_known known [] did
  have hbegin : db.beginNested ref = (.ok (), db') := he
  refine ⟨db', ?_, tx.push, known', entered', same ▸ change⟩
  simp only [enterNested, hbegin]

theorem pass (h : db.Entered origin ref (depth + 1) texts) (onExit : ExitAction) :
    ∃ db', (⟨ref, onExit⟩ : Scope).finishAs .commit db = (.ok (), db') ∧
      db'.Entered origin ref depth texts := by
  obtain ⟨tx, known, entered, change⟩ := h
  obtain ⟨did, entered'⟩ := entered.pass db.backend
  obtain ⟨db', he, known', same⟩ := finishAs_known known did onExit
  exact ⟨db', he, tx.pop, known', entered', same ▸ change⟩

theorem undo (h : db.Entered origin ref (depth + 1) texts) (obliging : origin.Obliging)
    (onExit : ExitAction) : ∃ db', (⟨ref, onExit⟩ : Scope).finishAs .rollback db = (.ok (), db') ∧
      db'.Undone origin ref depth := by
  obtain ⟨tx, known, entered, change⟩ := h
  obtain ⟨tx', backend', did, undone, change'⟩ := entered.undo (change.obliging obliging)
  obtain ⟨db', he, known', same⟩ := finishAs_known known did onExit
  exact ⟨db', he, tx', known', undone, same ▸ change.trans change'⟩

theorem commit_root (h : db.Entered origin ref 0 texts) (obliging : origin.Obliging)
    (onExit : ExitAction) : ∃ db', (⟨ref, onExit⟩ : Scope).finishAs .commit db = (.ok (), db') ∧
      db'.Over origin ref texts 1 0 := by
  obtain ⟨tx, known, entered, change⟩ := h
  obtain ⟨tx', backend', did, spent, levels, change'⟩ := entered.commit (change.obliging obliging)
  obtain ⟨db', tx'', he, known', spent', depth, same⟩ := finishAs_last known did spent onExit
  exact ⟨db', he, tx'', known', spent', depth.trans levels, same ▸ change.trans change'⟩

theorem undo_root (h : db.Entered origin ref 0 texts) (obliging : origin.Obliging)
    (onExit : ExitAction) : ∃ db', (⟨ref, onExit⟩ : Scope).finishAs .rollback db = (.ok (), db') ∧
      db'.Over origin ref [] 0 1 := by
  obtain ⟨tx, known, entered, change⟩ := h
  obtain ⟨tx', backend', did, undone, change'⟩ := entered.undo (change.obliging obliging)
  obtain ⟨db', tx'', he, known', spent', depth, same⟩ := finishAs_last known did undone.spent onExit
  exact ⟨db', he, tx'', known', spent', depth.trans undone.levels, same ▸ change.trans change'⟩

end Entered

namespace Undone

theorem depth_eq (h : db.Undone origin ref depth) : (db.transaction ref).depth = depth := by
  obtain ⟨tx, known, undone, _⟩ := h
  rw [transaction_of_known known]
  exact undone.levels

theorem execute (h : db.Undone origin ref depth) {sql : String} (free : barred? sql = none)
    (params : List Json.Value) : ∃ db',
      db.execute (.transaction ref) sql params = (.error (.driver .closed), db') ∧
        db'.Undone origin ref depth := by
  obtain ⟨tx, known, undone, change⟩ := h
  have htx : db.transaction ref = tx := transaction_of_known known
  obtain ⟨known', _⟩ := update_known known tx db.backend
  refine ⟨db.update ref tx db.backend, ?_, tx, known', undone, change⟩
  simp only [Database.execute, htx, Transaction.execute_of_over undone.spent free]

theorem rollback (h : db.Undone origin ref depth) :
    ∃ db', db.rollback ref = (.error .nestedRolledBack, db') ∧ db'.Undone origin ref depth := by
  obtain ⟨tx, known, undone, change⟩ := h
  have htx : db.transaction ref = tx := transaction_of_known known
  obtain ⟨known', _⟩ := update_known known tx db.backend
  refine ⟨db.update ref tx db.backend, ?_, tx, known', undone, change⟩
  simp only [Database.rollback, htx, (undone.late db.backend).2]

theorem enter (h : db.Undone origin ref depth) :
    db.enterNested ref = (.error .nestedRolledBack, db) := by
  obtain ⟨tx, known, undone, change⟩ := h
  have htx : db.transaction ref = tx := transaction_of_known known
  simp only [enterNested, beginNested, htx, (undone.late db.backend).1]

theorem leave (h : db.Undone origin ref (depth + 1)) (action onExit : ExitAction) :
    ∃ db', (⟨ref, onExit⟩ : Scope).finishAs action db = (.ok (), db') ∧
      db'.Undone origin ref depth := by
  obtain ⟨tx, known, undone, change⟩ := h
  obtain ⟨did, undone'⟩ := undone.leave action db.backend
  obtain ⟨db', he, known', same⟩ := finishAs_known known did onExit
  exact ⟨db', he, tx.pop, known', undone', same ▸ change⟩

theorem leave_root (h : db.Undone origin ref 0) (action onExit : ExitAction) :
    ∃ db', (⟨ref, onExit⟩ : Scope).finishAs action db = (.ok (), db') ∧
      db'.Over origin ref [] 0 1 := by
  obtain ⟨tx, known, undone, change⟩ := h
  obtain ⟨did, undone'⟩ := undone.leave action db.backend
  obtain ⟨db', tx'', he, known', spent', depth, same⟩ := finishAs_last known did undone'.spent onExit
  exact ⟨db', he, tx'', known', spent', depth.trans undone'.levels, same ▸ change⟩

end Undone

end Database

end NestedTx
