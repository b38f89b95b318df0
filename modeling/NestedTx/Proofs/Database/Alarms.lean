import NestedTx.Proofs.Database.Moves
import NestedTx.Proofs.Transaction.Failures
import NestedTx.Proofs.Transaction.Watching

namespace NestedTx

namespace Transaction

variable {tx : Transaction} {backend : Backend}

theorem reported_of_exit {action : ExitAction} {failed : FailedExit} {tx' : Transaction}
    {backend' : Backend} (did : tx.exit action backend = (.error failed, tx', backend')) :
    failed = ⟨action, failed.cause, tx'.snapshot⟩ := by
  cases action with
  | commit =>
    simp only [exit, autoCommit] at did
    split at did
    · cases did
    · split at did
      · cases did
      · generalize tx.serverCommit backend = done at did
        obtain ⟨cause | _, left, asked⟩ := done
        · cases did
          rfl
        · cases did
  | rollback =>
    simp only [exit, autoRollback] at did
    split at did
    · cases did
    · generalize tx.serverRollback backend = done at did
      obtain ⟨cause | _, left, asked⟩ := done
      · cases did
        rfl
      · cases did

theorem failed_of_exit {action : ExitAction} {failed : FailedExit} {tx' : Transaction}
    {backend' : Backend} (did : tx.exit action backend = (.error failed, tx', backend')) :
    failed.error = refusal action failed.cause ∧ tx' = (tx.setStatus .errored).pop ∧
      tx'.settings = tx.settings := by
  have step := tx.perform_step backend (.exit action)
  have guards := Guards.perform tx (.exit action) backend
  simp only [Call.perform, did] at step guards
  have error : failed.error = refusal action failed.cause := by
    rw [reported_of_exit did]
    cases action <;> rfl
  refine ⟨error, ?_, guards.settings⟩
  have failure := step.failure rfl
  generalize failed.error = error' at failure
  cases failure with
  | late asks => rcases asks with he | he | he <;> cases he
  | refused asks => rcases asks with ⟨he, _⟩ | ⟨he, _⟩ <;> cases he
  | left => rfl
  | unrun asks => rcases asks with he | he <;> cases he

end Transaction

namespace Database

variable {db : Database} {ref : Nat}

theorem begin_outcome (db : Database) :
    (∃ ref db', db.begin = (.ok ref, db') ∧ db'.alarms = db.alarms) ∨
      ∃ cause db', db.begin = (.error (.beginFailed cause), db') ∧
        db'.alarms = db.alarms ++ if db.settings.strict then [.beginFailed cause] else [] := by
  have refused (cause : DriverError) (backend : Backend) :
      ({ db with backend }.refuseBegin cause).2.alarms =
        db.alarms ++ if db.settings.strict then [.beginFailed cause] else [] := by
    simp only [refuseBegin]
    split
    · rfl
    · exact (List.append_nil _).symm
  simp only [begin]
  rcases db.backend.checkout with ⟨cause | connection, backend⟩
  · exact .inr ⟨cause, _, rfl, refused cause backend⟩
  · dsimp only
    rcases ServerTransaction.begin connection backend with ⟨cause | carrier, backend'⟩
    · exact .inr ⟨cause, _, rfl, refused cause backend'⟩
    · exact .inl ⟨_, _, rfl, rfl⟩

theorem exit_outcome (held : db.isHeld ref = true) (action : ExitAction) :
    (∃ db', db.exit action ref = (.ok (), db') ∧ db'.alarms = db.alarms) ∨
      ∃ cause db', db.exit action ref = (.error (Transaction.refusal action cause), db') ∧
        db'.transaction ref = ((db.transaction ref).setStatus .errored).pop ∧
        db'.alarms = db.alarms ++ if (db.transaction ref).settings.strict
          then [.exit ⟨action, cause, (db'.transaction ref).snapshot⟩] else [] := by
  obtain ⟨entry, known, _⟩ := exists_of_isHeld held
  simp only [exit]
  rcases did : (db.transaction ref).exit action db.backend with ⟨failed | _, tx', backend'⟩
  · obtain ⟨error, left, settings⟩ := Transaction.failed_of_exit did
    have updated : (db.update ref tx' backend').transaction ref = tx' := by
      simp [transaction, update, setTransaction, known]
    refine .inr ⟨failed.cause, _, by rw [← error], ?_⟩
    rw [settings]
    split
    · have raised : ((db.update ref tx' backend').raise (.exit failed)).transaction ref = tx' := updated
      rw [raised, ← Transaction.reported_of_exit did]
      exact ⟨left, rfl⟩
    · exact ⟨updated.trans left, (List.append_nil _).symm⟩
  · exact .inl ⟨_, rfl, rfl⟩

end Database

namespace Action

def silent : Action → Bool
  | begin => false
  | call _ (.exit _) _ => false
  | expire _ _ => false
  | _ => true

theorem alarms_of_silent {action : Action} (silent : action.silent = true) (db : Database) :
    (action.perform db).2.alarms = db.alarms := by
  cases action with
  | begin | expire => cases silent
  | call ref call params =>
    simp only [perform]
    split
    · cases call with
      | exit => cases silent
      | begin =>
        simp only [Database.tell, Database.perform, Database.beginNested]
        cases (db.transaction ref).begin <;> rfl
      | commit | rollback => rfl
      | execute sql =>
        simp only [Database.tell, Database.perform_execute_db, Database.execute, Database.update]
        rfl
      | fetch sql =>
        simp only [Database.tell, Database.perform, Database.fetch]
    · rfl
  | retain ref =>
    simp only [perform]
    split <;> rfl
  | drop ref =>
    simp only [perform, Database.drop]
    split
    · rfl
    · split <;> rfl
  | finish action ref =>
    cases action <;>
    · simp only [perform, Database.tell, Database.finish, Database.serverCommit, Database.serverRollback]
      split <;> rfl
  | ping target =>
    cases target with
    | pool =>
      simp only [perform, Database.tell, Database.ping, Database.pingPool]
      split <;> rfl
    | connection ref =>
      simp only [perform, Database.tell, Database.ping, Database.pingConnection]
      split <;> rfl
  | beginOn ref =>
    simp only [perform, Database.tell, Database.beginOn]
    split
    · rfl
    · split <;> rfl
  | takeUp ref id settings =>
    simp only [perform, Database.takeUp]
    cases db.serverTransaction? ref <;> rfl
  | prune | setFaults | answer => rfl
  | execute | fetch | borrow | attach | giveBack | executeOn | fetchOn | serverExecute | serverFetch
  | letGo =>
    simp only [perform, Database.tell, Database.execute, Database.fetch, Database.borrow,
      Database.attach, Database.giveBack, Database.executeOn, Database.fetchOn,
      Database.serverExecute, Database.serverFetch, Database.letGo]
    split <;> rfl

end Action

end NestedTx
