import NestedTx.Proofs.Database.Waiting
import NestedTx.Proofs.Transaction.Failures

namespace NestedTx

open History

namespace Database

variable {db : Database} {ref : Nat} {entry : Entry} {call : Transaction.Call}
  {error : TransactionError}

theorem perform_idle (known : db.entries[ref]? = some entry) (params : List Json.Value)
    (asks : call = .begin ∨ call = .commit ∨ call = .rollback)
    (idle : call.perform entry.transaction db.backend = (.error error, entry.transaction, db.backend)) :
    (db.perform call params ref).2 = db := by
  have htx := transaction_of_known known
  have same : db.update ref entry.transaction db.backend = db := by
    simp only [update, setTransaction, modify_of_known known, set_known known]
  rcases asks with rfl | rfl | rfl
  · simp only [Transaction.Call.perform] at idle
    simp only [perform, beginNested, htx]
    cases begun : entry.transaction.begin with
    | error => rfl
    | ok tx =>
      rw [begun] at idle
      cases idle
  · replace idle : entry.transaction.commit db.backend = _ := idle
    simp only [perform, commit, htx, idle, same]
  · replace idle : entry.transaction.rollback db.backend = _ := idle
    simp only [perform, rollback, htx, idle, same]

theorem perform_failed (known : db.entries[ref]? = some entry) (params : List Json.Value)
    (failed : (db.perform call params ref).1 = .error error) :
    Transaction.Failure entry.transaction db.backend call error
      ((db.perform call params ref).2.transaction ref) (db.perform call params ref).2.backend := by
  obtain ⟨alarms, did⟩ := perform_eq known call params
  obtain ⟨hlt, _⟩ := List.getElem?_eq_some_iff.mp known
  rw [did] at failed
  have failure := (entry.transaction.perform_step db.backend call).failure failed
  rw [did]
  simpa [transaction, hlt] using failure

theorem perform_state (known : db.entries[ref]? = some entry) (params : List Json.Value)
    (failed : (db.perform call params ref).1 = .error error) (state : error.isStateError = true) :
    (db.perform call params ref).2 = db := by
  obtain ⟨alarms, did⟩ := perform_eq known call params
  rw [did] at failed
  have failure := (entry.transaction.perform_step db.backend call).failure failed
  have answer : call.perform entry.transaction db.backend = (.error error, _, _) :=
    Prod.ext failed rfl
  revert answer failure
  generalize (call.perform entry.transaction db.backend).2.1 = tx'
  generalize (call.perform entry.transaction db.backend).2.2 = backend'
  intro failure answer
  cases failure with
  | late asks => exact perform_idle known params asks answer
  | @refused _ action => cases action <;> cases state
  | @left action => cases action <;> cases state
  | unrun => cases state

end Database

namespace Run

variable {run : Run} {ref : Nat}

/-- A call that comes too late changes nothing at all. What the server refuses is noted as the status of
the innermost level, which is left if the call was to leave it, and a statement that fails is not even
noted. The transaction keeps its connection and what waits there, so that the first commit that the
server does not refuse publishes whatever was run. -/
theorem failures_keep (server : Server) (settings : Settings) (actions : List Action)
    (reached : (start server settings).steps actions = run) (held : run.db.isHeld ref = true)
    (call : Transaction.Call) (params : List Json.Value) {error : TransactionError}
    (failed : (run.db.perform call params ref).1 = .error error) :
    let tx := run.db.transaction ref
    let db' := (run.db.perform call params ref).2
    let tx' := db'.transaction ref
    (error.isStateError = true ∧ db' = run.db ∨
      error.isDriverFailure = true ∧
        ((call = .commit ∨ call = .rollback) ∧ tx' = tx.setStatus .errored ∨
          (∃ action, call = .exit action) ∧ tx' = (tx.setStatus .errored).pop) ∧
        (∃ carrier, tx.carrier = some carrier ∧ tx'.carrier = some carrier ∧
          carrier.Holds (statements (.root ref) run.history)) ∨
      (∃ cause, error = .query cause) ∧ (∃ sql, call = .execute sql ∨ call = .fetch sql) ∧ tx' = tx) ∧
      db'.backend.pool = run.db.backend.pool ∧
      db'.backend.server.journal = run.db.backend.server.journal ∧
      ∀ later call' params',
        let next := (run.step (.call ref call params)).steps later
        let did := next.db.perform call' params' ref
        next.db.isHeld ref = true → did.1 = .ok () →
          next.db.backend.server.counters.commits < did.2.backend.server.counters.commits →
            statements (.root ref) run.history <+: statements (.root ref) next.history ∧
              did.2.backend.server.journal =
                next.db.backend.server.journal ++ statements (.root ref) next.history := by
  intro tx db' tx'
  have h : run.Consistent server.journal := reached ▸ (start_consistent server settings).steps actions
  obtain ⟨entry, known, handles⟩ := Database.exists_of_isHeld held
  have htx : tx = entry.transaction := Database.transaction_of_known known
  have sound : entry.transaction.Sound := (reached ▸ start_sound server settings actions)
    entry (List.mem_of_getElem? known) handles
  have failure := htx ▸ Database.perform_failed known params failed
  refine ⟨?_, failure.spared.pool, failure.spared.journal, ?_⟩
  · rcases failure.kinds with state | ⟨refused, which⟩ | unrun
    · exact .inl ⟨state, Database.perform_state known params failed state⟩
    · refine .inr (.inl ⟨refused, which, ?_⟩)
      rw [failure.carrier_eq, htx]
      cases carries : entry.transaction.carrier with
      | some carrier => exact ⟨carrier, rfl, rfl, h.backed.holds_root known carrier carries⟩
      | none =>
        obtain ⟨alarms, did⟩ := Database.perform_eq known call params
        have step := entry.transaction.perform_step run.db.backend call
        rw [did] at failed
        cases refused.symm.trans (sound.isDriverFailure_eq_false step carries failed)
    · exact .inr (.inr unrun)
  · intro later call' params' next did heldThen answered counted
    have hnext : next.Consistent server.journal := (h.effect (h.backed.effect _)).steps later
    exact ⟨h.statements_steps known (.call ref call params :: later),
      hnext.journal_of_commit heldThen call' params' answered counted⟩

theorem failures_keep_refused :
    let refusing : Faults := ⟨0, false, false, true, true⟩
    let run := (start .empty .standard).steps [.begin, .call 0 (.execute "DELETE FROM t") [],
      .call 0 .begin [], .setFaults refusing]
    let left := run.db.perform (.exit .rollback) [] 0
    let next := (run.step (.call 0 (.exit .rollback) [])).steps [.call 0 .commit [], .setFaults .none]
    run.db.isHeld 0 = true ∧
      left.1 = .error (.rollbackFailed (.server "connection reset during rollback")) ∧
      left.2.transaction 0 = ((run.db.transaction 0).setStatus .errored).pop ∧
      (next.db.perform .commit [] 0).2.backend.server.journal = ["DELETE FROM t"] := by
  intro refusing run left next
  have held : run.db.isHeld 0 = true := by decide +kernel
  have failed : left.1 = .error (.rollbackFailed (.server "connection reset during rollback")) := by
    decide +kernel
  obtain ⟨kinds, _, _, published⟩ := failures_keep .empty .standard _ rfl held (.exit .rollback) [] failed
  refine ⟨held, failed, ?_, ?_⟩
  · rcases kinds with ⟨state, _⟩ | ⟨_, ⟨which, _⟩ | ⟨_, popped⟩, _⟩ | ⟨⟨_, which⟩, _⟩
    · cases state
    · rcases which with which | which <;> cases which
    · exact popped
    · cases which
  · obtain ⟨_, journal⟩ := published [.call 0 .commit [], .setFaults .none] .commit []
      (by decide +kernel) (by decide +kernel) (by decide +kernel)
    rw [journal]
    decide +kernel

end Run

end NestedTx
