import NestedTx.Proofs.Database.Exits
import NestedTx.Proofs.Database.Handles
import NestedTx.Proofs.Database.Levels
import NestedTx.Proofs.Transaction.Brackets
import NestedTx.Proofs.Transaction.Failures

namespace NestedTx

open Server (Change)

namespace Transaction

variable {tx tx' : Transaction} {backend backend' : Backend}

/-- The innermost level is closed, and the one around it is as it was; the root is not closed. -/
def Closes (tx tx' : Transaction) : Prop :=
  tx'.status :: tx'.outer = tx.outer ∨ tx.outer = [] ∧ tx'.outer = []

theorem Shift.closes {action : ExitAction} {answer : Except TransactionError Unit}
    (shift : Shift tx (.exit action) answer tx') : tx.Closes tx' := by
  cases shift with
  | left pops => exact .inl pops
  | remained root outer => exact .inr ⟨root, outer⟩
  | stayed stays => cases stays

theorem Closes.depth_eq (closes : tx.Closes tx') : tx'.depth = tx.depth - 1 := by
  rcases closes with pops | ⟨root, outer⟩
  · simp [depth, ← pops]
  · simp [depth, root, outer]

theorem Closes.saved {status : Status} {outer : List Status} (closes : tx.Closes tx')
    (nested : tx.outer = status :: outer) : tx'.status = status ∧ tx'.outer = outer := by
  rcases closes with pops | ⟨root, _⟩
  · exact List.cons_eq_cons.mp (pops.trans nested)
  · cases root.symm.trans nested

theorem outer_decided {call : Call} (decides : call = .commit ∨ call = .rollback) (tx : Transaction)
    (backend : Backend) : (call.perform tx backend).2.1.outer = tx.outer := by
  have shift := perform_shift call tx backend
  generalize (call.perform tx backend).2.1 = tx' at shift
  rcases decides with rfl | rfl
  · cases shift
    assumption
  · cases shift
    assumption

theorem Step.commit_root {answer : Except TransactionError Unit} (root : tx.outer = [])
    (step : Step tx backend .commit answer tx' backend') :
    (∃ error, answer = .error error ∧ error.isStateError = true) ∨
      ∃ result, tx.Undecided ∧ answer = result.mapError (refusal .commit) ∧
        Attempt .commit tx backend result tx' backend' := by
  cases step with
  | lateForAll => exact .inl ⟨_, rfl, rfl⟩
  | lateForLevel _ _ asks =>
    rcases asks with ⟨_, rfl⟩ | ⟨he, _⟩
    · exact .inl ⟨_, rfl, rfl⟩
    · cases he
  | lateForCommit => exact .inl ⟨_, rfl, rfl⟩
  | noted _ nested => exact absurd root nested
  | committing undecided _ attempt => exact .inr ⟨_, undecided, rfl, attempt⟩
  | barred _ asks | closed _ asks => rcases asks with he | he <;> cases he

theorem Attempt.commits {texts : List String}
    (holds : ∀ carrier, tx.carrier = some carrier → carrier.Holds texts)
    (attempt : Attempt .commit tx backend (.ok ()) tx' backend') :
    tx'.carrier = none ∧ tx'.carrierCommitted = true ∧ tx'.status = .committed ∧
      Change texts 1 0 backend.server backend'.server := by
  cases attempt with
  | @done carrier _ _ some finish =>
    rcases (holds carrier some).finish_cases .commit backend with ⟨_, _, _, _, he, _⟩ | ⟨_, he, change, _⟩
    · cases he.symm.trans finish
    · cases he.symm.trans finish
      rw [Backend.release_of_free rfl, Backend.giveBack_server]
      exact ⟨rfl, rfl, rfl, change⟩

theorem Step.rolledBack_of_exit {texts : List String} {answer : Except TransactionError Unit}
    (step : Step tx backend (.exit .rollback) answer tx' backend')
    (whole : tx.rolledBack = false) (uncommitted : tx.status ≠ .committed)
    (holds : ∀ carrier, tx.carrier = some carrier → carrier.Holds texts) :
    tx'.rolledBack = true ↔
      isLive tx.carrier = true ∧ backend.server.faults.rollback = false := by
  cases step with
  | lateForAll _ asks => rcases asks with he | he | he <;> cases he
  | lateForLevel _ _ asks => rcases asks with ⟨he, _⟩ | ⟨he, _⟩ <;> cases he
  | barred _ asks | closed _ asks => rcases asks with he | he <;> cases he
  | left decided =>
    rcases decided with rolledBack | committed | ⟨he, _⟩
    · cases whole.symm.trans rolledBack
    · exact absurd committed uncommitted
    · cases he
  | leaving _ _ _ attempt =>
    refine Iff.trans ?_ (attempt.ok_iff holds)
    rw [pop_rolledBack]
    cases attempt with
    | missing | refused => simpa [setStatus] using whole
    | done => simp [settle]

theorem Attempt.commits_rollback {result : Except DriverError Unit}
    (attempt : Attempt .rollback tx backend result tx' backend') :
    backend'.server.counters.commits = backend.server.counters.commits := by
  have asked (carrier : ServerTransaction) :
      (carrier.finish .rollback backend).2.2.server.counters.commits =
        backend.server.counters.commits := by
    simp only [ServerTransaction.finish, ServerTransaction.rollback]
    split
    · rfl
    · rcases carrier.connection.link.rollback_cases backend.server with
        ⟨_, _, he, change, _⟩ | ⟨_, _, _, he, change⟩
      · rw [he]
        exact change.commits
      · rw [he]
        exact change.commits
  cases attempt with
  | missing => rfl
  | @refused carrier _ _ _ _ finish =>
    have same := asked carrier
    rwa [finish] at same
  | @done carrier carrier' backend' _ finish =>
    have same := asked carrier
    rw [finish] at same
    obtain ⟨_, change⟩ := Backend.release_change carrier'.connection backend'
    exact change.commits.trans same

theorem Step.commits_of_exit {answer : Except TransactionError Unit}
    (step : Step tx backend (.exit .rollback) answer tx' backend') :
    backend'.server.counters.commits = backend.server.counters.commits := by
  cases step with
  | lateForAll | lateForLevel | barred | closed | left => rfl
  | leaving _ _ _ attempt => exact attempt.commits_rollback

theorem exit_of_decided (decided : tx.rolledBack = true ∨ tx.status = .committed) (backend : Backend) :
    (Call.exit .rollback).perform tx backend = (.ok (), tx.pop, backend) := by
  have noted : (tx.rolledBack || tx.status = .committed) = true := by simpa using decided
  simp only [Call.perform, exit, autoRollback, noted, if_true]
  rfl

theorem abandon_levels (tx : Transaction) (backend : Backend) :
    (tx.abandon backend).1.status = tx.status ∧ (tx.abandon backend).1.outer = tx.outer := by
  unfold abandon
  split <;> exact ⟨rfl, rfl⟩

end Transaction

namespace Database

variable {db : Database} {ref handles : Nat} {tx tx' : Transaction}

theorem drop_known (known : db.entries[ref]? = some ⟨tx, handles + 1⟩) :
    ∃ tx', (db.drop ref).entries[ref]? = some ⟨tx', handles⟩ ∧ tx'.status = tx.status ∧
      tx'.outer = tx.outer ∧ tx'.standing.flags = tx.standing.flags ∧
      (tx.carrier = none → tx'.carrier = none ∧ (db.drop ref).backend = db.backend) := by
  cases handles with
  | zero =>
    obtain ⟨hlt, _⟩ := List.getElem?_eq_some_iff.mp known
    obtain ⟨status, outer⟩ := tx.abandon_levels db.backend
    have dropped : (db.drop ref).entries = db.entries.set ref ⟨(tx.abandon db.backend).1, 0⟩ := by
      simp only [drop, known]
    have backend : (db.drop ref).backend = (tx.abandon db.backend).2 := by
      simp only [drop, known]
    rw [dropped, backend]
    refine ⟨_, List.getElem?_set_self hlt, status, outer, abandon_flags tx db.backend, fun spent => ?_⟩
    simp [Transaction.abandon, spent]
  | succ handles =>
    obtain ⟨dropped, backend⟩ := drop_of_more known
    exact ⟨tx, dropped, rfl, rfl, rfl, fun spent => ⟨spent, backend⟩⟩

theorem finishAs_held (known : db.entries[ref]? = some ⟨tx, handles + 1⟩) {action : ExitAction}
    {answer : Except TransactionError Unit} {backend' : Backend}
    (did : (Transaction.Call.exit action).perform tx db.backend = (answer, tx', backend'))
    (onExit : ExitAction) : ∃ tx'' db', (⟨ref, onExit⟩ : Scope).finishAs action db = (answer, db') ∧
      db'.entries[ref]? = some ⟨tx'', handles⟩ ∧ tx''.status = tx'.status ∧ tx''.outer = tx'.outer ∧
      tx''.standing.flags = tx'.standing.flags ∧
      (tx'.carrier = none → tx''.carrier = none ∧ db'.backend = backend') := by
  obtain ⟨left, he, known', same⟩ := perform_known known [] did
  have hexit : db.exit action ref = (answer, left) := he
  obtain ⟨tx'', dropped, status, outer, flags, spent⟩ := drop_known known'
  refine ⟨tx'', left.drop ref, ?_, dropped, status, outer, flags, fun none => ?_⟩
  · simp only [Scope.finishAs, hexit]
  · rw [← same]
    exact spent none

theorem closes_finishAs (known : db.entries[ref]? = some ⟨tx, handles + 1⟩) (action onExit : ExitAction) :
    tx.Closes (((⟨ref, onExit⟩ : Scope).finishAs action db).2.transaction ref) := by
  have shift := Transaction.perform_shift (.exit action) tx db.backend
  rcases did : (Transaction.Call.exit action).perform tx db.backend with ⟨answer, tx', backend'⟩
  rw [did] at shift
  obtain ⟨tx'', db', he, known', status, outer, _⟩ := finishAs_held known did onExit
  rw [he, transaction_of_known known']
  rcases shift.closes with pops | ⟨root, empty⟩
  · exact .inl (by rw [status, outer, pops])
  · exact .inr ⟨root, outer.trans empty⟩

theorem closes_leave (known : db.entries[ref]? = some ⟨tx, handles + 1⟩) (onExit : ExitAction)
    (way : Scope.Way) : tx.Closes (((⟨ref, onExit⟩ : Scope).leave way db).transaction ref) := by
  have decided {call : Transaction.Call} (decides : call = .commit ∨ call = .rollback) :
      tx.Closes (((⟨ref, onExit⟩ : Scope).finishAs .rollback (db.perform call [] ref).2).2.transaction
        ref) := by
    have outer := Transaction.outer_decided decides tx db.backend
    rcases did : call.perform tx db.backend with ⟨answer, tx', backend'⟩
    rw [did] at outer
    obtain ⟨db', he, known', _⟩ := perform_known known [] did
    have more : handles + 1 + call.handles answer = handles + call.handles answer + 1 := by omega
    rw [more] at known'
    have closes := closes_finishAs known' .rollback onExit
    rw [he]
    unfold Transaction.Closes at closes ⊢
    rwa [outer] at closes
  cases way with
  | commit =>
    have closes := @decided .commit (.inl rfl)
    exact closes
  | rollback =>
    have closes := @decided .rollback (.inr rfl)
    exact closes
  | finish | drop => exact closes_finishAs known onExit onExit
  | finishAs action => exact closes_finishAs known action onExit
  | unwind => exact closes_finishAs known .rollback onExit

theorem scope_commit_eq (onExit : ExitAction) (ref : Nat) (db : Database) :
    (⟨ref, onExit⟩ : Scope).commit db = ((db.perform .commit [] ref).1,
      ((⟨ref, onExit⟩ : Scope).finishAs .rollback (db.perform .commit [] ref).2).2) := rfl

section Root

variable {texts : List String} {onExit : ExitAction} {db' : Database}

theorem commit_ok (known : db.entries[ref]? = some ⟨tx, handles + 1⟩) (root : tx.outer = [])
    (holds : ∀ carrier, tx.carrier = some carrier → carrier.Holds texts)
    (did : (⟨ref, onExit⟩ : Scope).commit db = (.ok (), db')) :
    tx.status ≠ .committed ∧ (db'.transaction ref).carrierCommitted = true ∧
      Change texts 1 0 db.backend.server db'.backend.server := by
  have step := tx.perform_step db.backend .commit
  generalize commits : Transaction.Call.commit.perform tx db.backend = done at step
  obtain ⟨answer, tx', backend'⟩ := done
  obtain ⟨committed, he, known', backend⟩ := perform_known known [] commits
  rw [scope_commit_eq, he] at did
  obtain ⟨rfl, rfl⟩ := Prod.mk.inj did
  rcases step.commit_root root with ⟨_, late, _⟩ | ⟨_ | _, undecided, answered, attempt⟩
  · cases late
  · cases answered
  · obtain ⟨spent, flag, status, change⟩ := attempt.commits holds
    have left := Transaction.exit_of_decided (.inr status) committed.backend
    obtain ⟨gone, db', closed, known'', _, _, flags, same⟩ := finishAs_held known' left onExit
    obtain ⟨_, rest⟩ := same (by rwa [Transaction.pop_carrier])
    have kept : gone.carrierCommitted = tx'.pop.carrierCommitted :=
      congrArg Prod.fst (Option.some.inj flags)
    rw [closed, transaction_of_known known'', rest, backend, kept, Transaction.pop_carrierCommitted]
    exact ⟨undecided.committed, flag, change⟩

theorem commit_failed (known : db.entries[ref]? = some ⟨tx, handles + 1⟩) (root : tx.outer = [])
    (holds : ∀ carrier, tx.carrier = some carrier → carrier.Holds texts) {cause : DriverError}
    (did : (⟨ref, onExit⟩ : Scope).commit db = (.error (.commitFailed cause), db')) :
    tx.Undecided ∧ ((db'.transaction ref).rolledBack = true ↔
      isLive tx.carrier = true ∧ db.backend.server.faults.rollback = false) := by
  have step := tx.perform_step db.backend .commit
  generalize commits : Transaction.Call.commit.perform tx db.backend = done at step
  obtain ⟨answer, tx', backend'⟩ := done
  obtain ⟨failed, he, known', backend⟩ := perform_known known [] commits
  rw [scope_commit_eq, he] at did
  obtain ⟨rfl, rfl⟩ := Prod.mk.inj did
  rcases step.commit_root root with ⟨_, late, state⟩ | ⟨_ | _, undecided, answered, attempt⟩
  · cases late
    cases state
  · -- The transaction is only errored, so that the exit that follows asks for a rollback.
    obtain ⟨rfl, spared⟩ := attempt.failed rfl
    have next := (tx.setStatus .errored).perform_step failed.backend (.exit .rollback)
    generalize exits : (Transaction.Call.exit .rollback).perform (tx.setStatus .errored) failed.backend =
      done at next
    obtain ⟨answer', tx', backend'⟩ := done
    obtain ⟨gone, db', closed, known'', _, _, flags, _⟩ := finishAs_held known' exits onExit
    have kept : gone.rolledBack = tx'.rolledBack := congrArg Prod.snd (Option.some.inj flags)
    have refuses : failed.backend.server.faults.rollback = db.backend.server.faults.rollback := by
      rw [backend]
      exact congrFun spared.refuses .rollback
    have uncommitted : (tx.setStatus .errored).status ≠ .committed := nofun
    rw [closed, transaction_of_known known'', kept, ← refuses]
    exact ⟨undecided, next.rolledBack_of_exit undecided.whole uncommitted holds⟩
  · cases answered

end Root

section Panic

/-- A panic drops these guards one after the other; the server may refuse something else each time. -/
def unwindAll (ref : Nat) : List (Faults × ExitAction) → Database → Database
  | [], db => db
  | (faults, onExit) :: guards, db =>
    unwindAll ref guards ((⟨ref, onExit⟩ : Scope).unwind (db.setFaults faults))

theorem commits_drop (ref : Nat) (db : Database) :
    (db.drop ref).backend.server.counters.commits = db.backend.server.counters.commits := by
  unfold drop
  split
  · rfl
  · rename_i entry _
    split
    · rfl
    · show (entry.transaction.abandon db.backend).2.server.counters.commits = _
      unfold Transaction.abandon
      split
      · rfl
      · rename_i carrier _
        obtain ⟨rollbacks, change⟩ := Backend.release_change carrier.connection db.backend
        exact change.commits
    · rfl

theorem commits_unwind (scope : Scope) (db : Database) :
    (scope.unwind db).backend.server.counters.commits = db.backend.server.counters.commits := by
  have left : scope.unwind db = (db.perform (.exit .rollback) [] scope.ref).2.drop scope.ref := rfl
  rw [left, commits_drop, perform_backend]
  exact ((db.transaction scope.ref).perform_step db.backend (.exit .rollback)).commits_of_exit

theorem commits_unwindAll (guards : List (Faults × ExitAction)) (db : Database) :
    (db.unwindAll ref guards).backend.server.counters.commits = db.backend.server.counters.commits := by
  induction guards generalizing db with
  | nil => rfl
  | cons guard guards ih =>
    obtain ⟨faults, onExit⟩ := guard
    exact (ih _).trans (commits_unwind ⟨ref, onExit⟩ (db.setFaults faults))

theorem unwindAll_over (known : db.entries[ref]? = some ⟨tx, handles⟩) (rolledBack : tx.rolledBack = true)
    (spent : tx.carrier = none) {guards : List (Faults × ExitAction)} (held : guards.length ≤ handles) :
    ((db.unwindAll ref guards).transaction ref).rolledBack = true ∧
      (db.unwindAll ref guards).backend.server.counters = db.backend.server.counters ∧
      (db.unwindAll ref guards).backend.server.journal = db.backend.server.journal := by
  induction guards generalizing db tx handles with
  | nil => exact ⟨by rw [unwindAll, transaction_of_known known, rolledBack], rfl, rfl⟩
  | cons guard guards ih =>
    obtain ⟨faults, onExit⟩ := guard
    obtain ⟨handles, rfl⟩ := Nat.exists_eq_add_of_le' (Nat.lt_of_lt_of_le (Nat.succ_pos _) held)
    have knownThen : (db.setFaults faults).entries[ref]? = some ⟨tx, handles + 1⟩ := known
    have left := Transaction.exit_of_decided (.inl rolledBack) (db.setFaults faults).backend
    obtain ⟨tx', db', he, known', _, _, flags, same⟩ := finishAs_held knownThen left onExit
    obtain ⟨spent', backend⟩ := same (by rwa [Transaction.pop_carrier])
    have rolledBack' : tx'.rolledBack = tx.pop.rolledBack := congrArg Prod.snd (Option.some.inj flags)
    rw [Transaction.pop_rolledBack, rolledBack] at rolledBack'
    have next : db.unwindAll ref ((faults, onExit) :: guards) = db'.unwindAll ref guards := by
      rw [unwindAll, Scope.unwind, he]
    obtain ⟨whole, counters, journal⟩ := ih known' rolledBack' spent' (Nat.le_of_succ_le_succ held)
    rw [next, counters, journal, backend]
    exact ⟨whole, rfl, rfl⟩

theorem unwindAll_open (known : db.entries[ref]? = some ⟨tx, handles⟩) (sound : tx.Sound)
    {carrier : ServerTransaction} (some : tx.carrier = some carrier) {texts : List String}
    (holds : carrier.Holds texts) (live : carrier.done = false)
    {guards : List (Faults × ExitAction)} (all : tx.depth + 1 ≤ guards.length)
    (held : guards.length ≤ handles)
    (obliging : ∀ guard ∈ guards, guard.1.commit = false ∧ guard.1.rollback = false) :
    ((db.unwindAll ref guards).transaction ref).rolledBack = true ∧
      (db.unwindAll ref guards).backend.server.counters =
        ExitAction.rollback.count db.backend.server.counters ∧
      (db.unwindAll ref guards).backend.server.journal = db.backend.server.journal := by
  induction guards generalizing db tx handles with
  | nil => cases all
  | cons guard guards ih =>
    obtain ⟨faults, onExit⟩ := guard
    obtain ⟨⟨commit, rollback⟩, rest⟩ := List.forall_mem_cons.mp obliging
    obtain ⟨handles, rfl⟩ := Nat.exists_eq_add_of_le' (Nat.lt_of_lt_of_le (Nat.succ_pos _) held)
    have knownThen : (db.setFaults faults).entries[ref]? = .some ⟨tx, handles + 1⟩ := known
    have next {answer : Except TransactionError Unit} {db' : Database}
        (he : (⟨ref, onExit⟩ : Scope).finishAs .rollback (db.setFaults faults) = (answer, db')) :
        db.unwindAll ref ((faults, onExit) :: guards) = db'.unwindAll ref guards := by
      rw [unwindAll, Scope.unwind, he]
    have willing : (db.setFaults faults).backend.server.Obliging := ⟨commit, rollback⟩
    rcases sound.exit_cases some holds live willing .rollback with
      ⟨_, nested, did⟩ | ⟨ends, tx', backend', did, settled, counters, journal⟩
    · obtain ⟨saved, outer, ho⟩ := List.exists_cons_of_ne_nil nested
      have levels : tx.depth = tx.pop.depth + 1 := by
        simp [Transaction.depth, Transaction.pop, ho, Transaction.setStatus]
      simp only [List.length_cons] at all held
      obtain ⟨more, rfl⟩ : ∃ more, handles = more + 1 := Nat.exists_eq_add_of_le' (by omega)
      obtain ⟨db', he, known', backend⟩ := finishAs_known knownThen did onExit
      have after := ih known' sound.pop (by rwa [Transaction.pop_carrier]) (by omega) (by omega) rest
      rw [backend] at after
      rw [next he]
      exact after
    · obtain ⟨gone, db', he, known', _, _, flags, same⟩ := finishAs_held knownThen did onExit
      have spent : tx'.pop.carrier = none := by
        rw [Transaction.pop_carrier, settled, Transaction.settle_carrier]
      obtain ⟨spent', backend⟩ := same spent
      have rolledBack : gone.rolledBack = true := by
        have kept : gone.rolledBack = tx'.pop.rolledBack := congrArg Prod.snd (Option.some.inj flags)
        rw [kept, Transaction.pop_rolledBack, settled]
        rfl
      obtain ⟨whole, counters', journal'⟩ :=
        unwindAll_over known' rolledBack spent' (Nat.le_of_succ_le_succ held)
      rw [next he, counters', journal', backend, counters, journal]
      exact ⟨whole, rfl, List.append_nil _⟩

end Panic

end Database

namespace Run

open History

/-- Whichever way a scope is left, and whatever the server answers, one level is closed, and the status
of the level around it is back. At the root, a scope's commit that succeeds is the commit on the server,
and one that the server refuses is followed by a rollback, unless the server refuses that too. When a
panic drops the guards of all levels, no commit is asked for, and a server that obliges is asked for one
rollback. A transaction that was opened by hand may have been ended by hand: nothing is rolled back then. -/
theorem scopes_close (server : Server) (settings : Settings) (actions : List Action) {run : Run}
    (reached : (start server settings).steps actions = run) {ref : Nat}
    (held : run.db.isHeld ref = true) :
    let tx := run.db.transaction ref
    let before := run.db.backend.server
    (∀ onExit way,
      let tx' := ((⟨ref, onExit⟩ : Scope).leave way run.db).transaction ref
      tx'.depth = tx.depth - 1 ∧
        ∀ saved outer, tx.outer = saved :: outer → tx'.status = saved ∧ tx'.outer = outer) ∧
      (tx.depth = 0 → ∀ onExit answer db', (⟨ref, onExit⟩ : Scope).commit run.db = (answer, db') →
        (answer = .ok () → tx.carrierCommitted = false ∧ (db'.transaction ref).carrierCommitted = true ∧
          db'.backend.server.counters.commits = before.counters.commits + 1 ∧
          db'.backend.server.journal = before.journal ++ statements (.root ref) run.history) ∧
        ∀ cause, answer = .error (.commitFailed cause) →
          ((run.tookUp ref = true → isLive (run.db.held (.root ref)) = true) →
            ((db'.transaction ref).rolledBack = true ↔ before.faults.rollback = false)) ∧
          (isLive (run.db.held (.root ref)) = false → (db'.transaction ref).rolledBack = false)) ∧
      (tx.isFinalized = false → ∀ guards : List (Faults × ExitAction), tx.depth + 1 ≤ guards.length →
        guards.length ≤ run.db.handles ref →
          let after := run.db.unwindAll ref guards
          after.backend.server.counters.commits = before.counters.commits ∧
            ((∀ guard ∈ guards, guard.1.commit = false ∧ guard.1.rollback = false) →
              (run.tookUp ref = true → isLive (run.db.held (.root ref)) = true) →
                (after.transaction ref).rolledBack = true ∧
                  after.backend.server.counters =
                    { before.counters with rollbacks := before.counters.rollbacks + 1 } ∧
                  after.backend.server.journal = before.journal)) := by
  intro tx before
  have h : run.Consistent server.journal := reached ▸ (start_consistent server settings).steps actions
  obtain ⟨⟨entity, handles⟩, known, more⟩ := Database.exists_of_isHeld held
  have htx : run.db.transaction ref = entity := Database.transaction_of_known known
  have sound : entity.Sound := (reached ▸ start_sound server settings actions)
    ⟨entity, handles⟩ (List.mem_of_getElem? known) more
  have holds := h.backed.holds_root known
  obtain ⟨others, rfl⟩ := Nat.exists_eq_add_of_le' more
  rw [show tx = entity from htx]
  refine ⟨fun onExit way => ?_, fun root onExit answer db' did => ⟨?_, ?_⟩,
    fun unfinalized guards all enough => ⟨Database.commits_unwindAll guards run.db, ?_⟩⟩
  · have closes := Database.closes_leave known onExit way
    exact ⟨closes.depth_eq, fun saved outer nested => closes.saved nested⟩
  · rintro rfl
    obtain ⟨uncommitted, committed, change⟩ :=
      Database.commit_ok known (List.length_eq_zero_iff.mp root) holds did
    exact ⟨sound.carrierCommitted_eq_false uncommitted, committed, change.commits, change.journal⟩
  · rintro cause rfl
    obtain ⟨undecided, rolledBack⟩ :=
      Database.commit_failed known (List.length_eq_zero_iff.mp root) holds did
    refine ⟨fun unspent => ?_, fun spent => ?_⟩
    · obtain ⟨_, some⟩ := sound.exists_carrier undecided.whole
        (sound.carrierCommitted_eq_false undecided.committed)
      have unfinalized : (run.db.transaction ref).isFinalized = false := by
        simp [htx, Transaction.isFinalized, some]
      obtain ⟨_, carrier, knownAs, _, some, _, live⟩ := exists_live reached held unfinalized unspent
      cases known.symm.trans knownAs
      replace some : entity.carrier = .some carrier := some
      rw [rolledBack, some]
      exact and_iff_right (by simp [isLive, live])
    · rw [Database.held_of_known known] at spent
      simp [← Bool.not_eq_true, rolledBack, spent]
  · intro obliging unspent
    rw [← htx] at unfinalized
    obtain ⟨_, carrier, knownAs, _, some, _, live⟩ := exists_live reached held unfinalized unspent
    cases known.symm.trans knownAs
    rw [Database.handles_of_known known] at enough
    exact Database.unwindAll_open known sound some (holds carrier some) live all enough obliging

theorem scopes_close_refused :
    let refusing : Faults := ⟨0, false, false, true, false⟩
    let root := (start .empty .standard).steps [.begin, .setFaults refusing]
    let nested := (start .empty .standard).steps [.begin, .call 0 .begin []]
    let left := (⟨0, .commit⟩ : Scope).commit root.db
    let guards := [(Faults.none, ExitAction.commit), (Faults.none, ExitAction.commit)]
    root.db.isHeld 0 = true ∧ left.1 = .error (.commitFailed (.server "could not serialize access")) ∧
      (left.2.transaction 0).rolledBack = true ∧ nested.db.isHeld 0 = true ∧
      (((⟨0, .commit⟩ : Scope).leave .drop nested.db).transaction 0).depth = 0 ∧
      ((nested.db.unwindAll 0 guards).transaction 0).rolledBack = true ∧
      (nested.db.unwindAll 0 guards).backend.server.counters.commits = 0 := by
  intro refusing root nested left guards
  have heldRoot : root.db.isHeld 0 = true := by decide +kernel
  have heldNested : nested.db.isHeld 0 = true := by decide +kernel
  have failed : left.1 = .error (.commitFailed (.server "could not serialize access")) := by
    decide +kernel
  obtain ⟨_, commits, _⟩ := scopes_close .empty .standard _ rfl heldRoot
  obtain ⟨closes, _, unwinds⟩ := scopes_close .empty .standard _ rfl heldNested
  obtain ⟨_, refused⟩ := commits (by decide +kernel) .commit left.1 left.2 rfl
  obtain ⟨uncommitted, obliged⟩ :=
    unwinds (by decide +kernel) guards (by decide +kernel) (by decide +kernel)
  obtain ⟨rolledBack, _⟩ := obliged (by simp [guards, Faults.none]) (by decide +kernel)
  have rolled := (refused _ failed).1 (by decide +kernel)
  refine ⟨heldRoot, failed, rolled.mpr (by decide +kernel), heldNested, ?_, rolledBack, ?_⟩
  · rw [(closes .commit .drop).1]
    decide +kernel
  · rw [uncommitted]
    decide +kernel

end Run

end NestedTx
