import NestedTx.Proofs.Transaction.Mark
import NestedTx.Proofs.Transaction.Soundness

namespace NestedTx

open Server (Change)

def Faults.refuses (faults : Faults) : ExitAction → Bool
  | .commit => faults.commit
  | .rollback => faults.rollback

instance decidableEqAnswer {ε α : Type} [DecidableEq ε] [DecidableEq α] : DecidableEq (Except ε α)
  | .ok value, .ok other => decidable_of_iff (value = other) (by simp)
  | .error error, .error other => decidable_of_iff (error = other) (by simp)
  | .ok _, .error _ | .error _, .ok _ => .isFalse nofun

/-- The server was asked at most; no connection was lent or given back, and nothing took effect. -/
structure Backend.Spared (backend backend' : Backend) : Prop where
  pool : backend'.pool = backend.pool
  journal : backend'.server.journal = backend.server.journal
  refuses : backend'.server.faults.refuses = backend.server.faults.refuses

theorem Backend.Spared.refl (backend : Backend) : backend.Spared backend := ⟨rfl, rfl, rfl⟩

theorem Backend.Spared.of_change {backend : Backend} {server' : Server} {commits rollbacks : Nat}
    (change : Change [] commits rollbacks backend.server server') :
    backend.Spared { backend with server := server' } where
  pool := rfl
  journal := by rw [change.journal, List.append_nil]
  refuses := by
    funext action
    cases action with
    | commit => exact change.refusesCommit
    | rollback => exact change.refusesRollback

namespace ServerTransaction

variable {tx tx' : ServerTransaction} {backend backend' : Backend}

theorem finish_failed {action : ExitAction} {error : DriverError}
    (failed : tx.finish action backend = (.error error, tx', backend')) :
    tx' = tx ∧ backend.Spared backend' := by
  rcases tx.finish_cases action backend with ⟨_, _, _, _, he, change⟩ | ⟨_, _, he, _⟩
  · cases he.symm.trans failed
    exact ⟨rfl, .of_change change⟩
  · cases he.symm.trans failed

theorem Holds.finish_ok_iff {texts : List String} (h : tx.Holds texts) (action : ExitAction)
    (backend : Backend) : (tx.finish action backend).1 = .ok () ↔
      tx.done = false ∧ backend.server.faults.refuses action = false := by
  obtain ⟨⟨id, pooled, ⟨pending⟩⟩, _ | _⟩ := tx
  · obtain rfl : pending = some texts := h
    cases action with
    | commit =>
      simp only [finish, commit, Link.commit, Faults.refuses]
      cases backend.server.faults.commit <;> simp
    | rollback =>
      simp only [finish, rollback, Link.rollback, Faults.refuses]
      cases backend.server.faults.rollback <;> simp
  · cases action <;> simp [finish, commit, rollback]

theorem execute_failed {sql : String} {error : DriverError}
    (failed : tx.execute sql backend = (.error error, tx', backend')) :
    tx' = tx ∧ backend.Spared backend' := by
  simp only [execute, Connection.execute] at failed
  split at failed
  · cases failed
    exact ⟨rfl, .refl backend⟩
  · rcases tx.connection.link.execute_cases backend.server sql with
      ⟨_, _, he, change⟩ | ⟨_, _, _, he, _⟩ | ⟨_, _, _, _, he, _⟩
    · rw [he] at failed
      cases failed
      exact ⟨rfl, .of_change change⟩
    · rw [he] at failed
      cases failed
    · rw [he] at failed
      cases failed

theorem fetch_spared (sql : String) (tx : ServerTransaction) (backend : Backend) :
    backend.Spared (tx.fetch sql backend).2 := by
  obtain ⟨pool, change⟩ := tx.fetch_change sql backend
  have spared := Backend.Spared.of_change change
  exact ⟨pool, spared.journal, spared.refuses⟩

end ServerTransaction

namespace Transaction

inductive Failure (tx : Transaction) (backend : Backend) :
    Call → TransactionError → Transaction → Backend → Prop
  | late {call : Call} {error : TransactionError}
    (asks : call = .begin ∨ call = .commit ∨ call = .rollback) (state : error.isStateError = true) :
    Failure tx backend call error tx backend
  | refused {call : Call} {action : ExitAction} {cause : DriverError} {backend' : Backend}
    (asks : call = .commit ∧ action = .commit ∨ call = .rollback ∧ action = .rollback)
    (spared : backend.Spared backend') :
    Failure tx backend call (refusal action cause) (tx.setStatus .errored) backend'
  | left {action : ExitAction} {cause : DriverError} {backend' : Backend}
    (spared : backend.Spared backend') :
    Failure tx backend (.exit action) (refusal action cause) (tx.setStatus .errored).pop backend'
  | unrun {call : Call} {sql : String} {cause : QueryError} {backend' : Backend}
    (asks : call = .execute sql ∨ call = .fetch sql) (spared : backend.Spared backend') :
    Failure tx backend call (.query cause) tx backend'

variable {tx tx' : Transaction} {backend backend' : Backend}

theorem carry_self {carrier : ServerTransaction} (some : tx.carrier = some carrier) :
    { tx with carrier := .some carrier } = tx := by
  rw [← some]

theorem Attempt.failed {action : ExitAction} {result : Except DriverError Unit} {cause : DriverError}
    (attempt : Attempt action tx backend result tx' backend') (failed : result = .error cause) :
    tx' = tx.setStatus .errored ∧ backend.Spared backend' := by
  cases attempt with
  | missing => exact ⟨rfl, .refl backend⟩
  | refused some finish =>
    obtain ⟨rfl, spared⟩ := ServerTransaction.finish_failed finish
    rw [carry_self some]
    exact ⟨rfl, spared⟩
  | done => cases failed

theorem Attempt.ok_iff {texts : List String} {action : ExitAction} {result : Except DriverError Unit}
    (holds : ∀ carrier, tx.carrier = some carrier → carrier.Holds texts)
    (attempt : Attempt action tx backend result tx' backend') :
    result = .ok () ↔ isLive tx.carrier = true ∧ backend.server.faults.refuses action = false := by
  cases attempt with
  | missing none => simp [none, isLive]
  | @refused carrier _ _ _ some finish =>
    have ended := (holds carrier some).finish_ok_iff action backend
    rw [finish] at ended
    simpa [isLive, some] using ended
  | @done carrier _ _ some finish =>
    have ended := (holds carrier some).finish_ok_iff action backend
    rw [finish] at ended
    simpa [isLive, some] using ended

theorem Attempt.live_iff {texts : List String} {action : ExitAction} {result : Except DriverError Unit}
    (holds : ∀ carrier, tx.carrier = some carrier → carrier.Holds texts)
    (attempt : Attempt action tx backend result tx' backend') :
    isLive tx'.carrier = true ↔
      isLive tx.carrier = true ∧ backend.server.faults.refuses action = true := by
  cases attempt with
  | missing none => simp [none, isLive]
  | @refused carrier _ error _ some finish =>
    have ended := (holds carrier some).finish_ok_iff action backend
    obtain ⟨same, _⟩ := ServerTransaction.finish_failed finish
    rw [finish] at ended
    cases done : carrier.done <;> simp_all [isLive]
  | @done carrier _ _ some finish =>
    have ended := (holds carrier some).finish_ok_iff action backend
    rw [finish] at ended
    simp [(ended.mp rfl).2, isLive]

theorem exists_cause {action : ExitAction} {result : Except DriverError Unit} {error : TransactionError}
    (failed : result.mapError (refusal action) = .error error) :
    ∃ cause, result = .error cause ∧ error = refusal action cause := by
  cases result with
  | error cause =>
    cases failed
    exact ⟨cause, rfl, rfl⟩
  | ok => cases failed

theorem Step.failure {call : Call} {answer : Except TransactionError Unit} {error : TransactionError}
    (step : Step tx backend call answer tx' backend') (failed : answer = .error error) :
    Failure tx backend call error tx' backend' := by
  cases step with
  | lateForAll _ asks =>
    cases failed
    exact .late asks rfl
  | lateForRoot =>
    cases failed
    exact .late (.inl rfl) rfl
  | lateForLevel _ _ asks =>
    cases failed
    rcases asks with ⟨rfl, rfl⟩ | ⟨rfl, rfl⟩
    · exact .late (.inr (.inl rfl)) rfl
    · exact .late (.inr (.inr rfl)) rfl
  | lateForCommit =>
    cases failed
    exact .late (.inr (.inl rfl)) rfl
  | entered | noted | left => cases failed
  | committing _ _ attempt =>
    obtain ⟨cause, refused, rfl⟩ := exists_cause failed
    obtain ⟨rfl, spared⟩ := attempt.failed refused
    exact .refused (.inl ⟨rfl, rfl⟩) spared
  | rollingBack _ _ attempt =>
    obtain ⟨cause, refused, rfl⟩ := exists_cause failed
    obtain ⟨rfl, spared⟩ := attempt.failed refused
    exact .refused (.inr ⟨rfl, rfl⟩) spared
  | leaving _ _ _ attempt =>
    obtain ⟨cause, refused, rfl⟩ := exists_cause failed
    obtain ⟨rfl, spared⟩ := attempt.failed refused
    exact .left spared
  | barred _ asks | closed _ asks =>
    cases failed
    exact .unrun asks (.refl backend)
  | @executed carrier carrier' sql result _ some _ run =>
    cases result with
    | ok => cases failed
    | error cause =>
      cases failed
      obtain ⟨rfl, spared⟩ := ServerTransaction.execute_failed run
      rw [carry_self some]
      exact .unrun (.inl rfl) spared
  | @fetched carrier sql result _ some _ run =>
    have spared := carrier.fetch_spared sql backend
    rw [run] at spared
    cases result with
    | ok => cases failed
    | error cause =>
      cases failed
      exact .unrun (.inr rfl) spared

theorem Step.live_of_exit {texts : List String} (sound : tx.Sound)
    (holds : ∀ carrier, tx.carrier = some carrier → carrier.Holds texts)
    {answer : Except TransactionError Unit}
    (step : Step tx backend (.exit .rollback) answer tx' backend') :
    isLive tx'.carrier = true ↔ isLive tx.carrier = true ∧
      (tx.status = .committed ∨ backend.server.faults.rollback = true) := by
  cases step with
  | lateForAll _ asks => rcases asks with he | he | he <;> cases he
  | lateForLevel _ _ asks => rcases asks with ⟨he, _⟩ | ⟨he, _⟩ <;> cases he
  | barred _ asks | closed _ asks => rcases asks with he | he <;> cases he
  | left decided =>
    rw [pop_carrier]
    rcases decided with rolledBack | committed | ⟨he, _⟩
    · have spent : tx.carrier = none := sound.carrier_eq_none.mpr (.inr rolledBack)
      simp [spent, isLive]
    · simp [committed]
    · cases he
  | leaving _ uncommitted _ attempt =>
    rw [pop_carrier, attempt.live_iff holds]
    simp [uncommitted, Faults.refuses]

namespace Failure

variable {call : Call} {error : TransactionError}

theorem kinds (failure : Failure tx backend call error tx' backend') :
    error.isStateError = true ∨
      error.isDriverFailure = true ∧
        ((call = .commit ∨ call = .rollback) ∧ tx' = tx.setStatus .errored ∨
          (∃ action, call = .exit action) ∧ tx' = (tx.setStatus .errored).pop) ∨
      (∃ cause, error = .query cause) ∧ (∃ sql, call = .execute sql ∨ call = .fetch sql) ∧ tx' = tx := by
  cases failure with
  | late _ state => exact .inl state
  | refused asks =>
    rcases asks with ⟨rfl, rfl⟩ | ⟨rfl, rfl⟩
    · exact .inr (.inl ⟨rfl, .inl ⟨.inl rfl, rfl⟩⟩)
    · exact .inr (.inl ⟨rfl, .inl ⟨.inr rfl, rfl⟩⟩)
  | @left action =>
    have refused (cause : DriverError) : (refusal action cause).isDriverFailure = true := by
      cases action <;> rfl
    exact .inr (.inl ⟨refused _, .inr ⟨⟨action, rfl⟩, rfl⟩⟩)
  | @unrun _ sql cause _ asks => exact .inr (.inr ⟨⟨cause, rfl⟩, ⟨sql, asks⟩, rfl⟩)

theorem spared (failure : Failure tx backend call error tx' backend') : backend.Spared backend' := by
  cases failure with
  | late => exact .refl backend
  | refused _ spared | left spared | unrun _ spared => exact spared

theorem carrier_eq (failure : Failure tx backend call error tx' backend') :
    tx'.carrier = tx.carrier := by
  cases failure with
  | late | refused | unrun => rfl
  | left => exact pop_carrier _

end Failure

end Transaction

end NestedTx
