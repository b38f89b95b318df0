import NestedTx.Proofs.Transaction.Soundness

namespace NestedTx

open Server (Change)

def Server.ended (action : ExitAction) (before after : Server) : Nat :=
  match action with
  | .commit => if before.faults.commit then 0 else after.counters.commits - before.counters.commits
  | .rollback =>
    if before.faults.rollback then 0 else after.counters.rollbacks - before.counters.rollbacks

@[simp] theorem Server.ended_self (action : ExitAction) (server : Server) :
    server.ended action server = 0 := by
  cases action <;> simp [ended]

theorem Server.Change.ended_eq_zero {texts : List String} {server server' : Server}
    (change : Change texts 0 0 server server') (action : ExitAction) :
    server.ended action server' = 0 := by
  cases action with
  | commit => simp [ended, change.commits]
  | rollback => simp [ended, change.rollbacks]

theorem barred?_eq_none_iff {sql : String} :
    barred? sql = none ↔ ∃ kind, kindOf sql = .ok kind ∧ kind ≠ .transactionControl := by
  simp only [barred?]
  cases kindOf sql with
  | error error => simp
  | ok kind => cases kind <;> simp

namespace Link

variable {link link' : Link} {server server' : Server}

theorem obliged_of_commit (committed : link.commit server = (.ok (), link', server')) :
    server.faults.commit = false := by
  by_cases refused : server.faults.commit = true
  · simp only [commit] at committed
    split at committed
    · cases committed
    · rw [if_pos refused] at committed
      cases committed
  · exact Bool.eq_false_iff.mpr refused

theorem obliged_of_rollback (rolledBack : link.rollback server = (.ok (), link', server')) :
    server.faults.rollback = false := by
  by_cases refused : server.faults.rollback = true
  · simp only [rollback] at rolledBack
    split at rolledBack
    · cases rolledBack
    · rw [if_pos refused] at rolledBack
      cases rolledBack
  · exact Bool.eq_false_iff.mpr refused

end Link

namespace ServerTransaction.Holds

variable {tx : ServerTransaction} {texts : List String}

theorem finish_ended (h : tx.Holds texts) (action : ExitAction) (backend : Backend) :
    (∃ error server', tx.finish action backend =
        (.error error, tx, { backend with server := server' }) ∧
      ∀ kind, backend.server.ended kind server' = 0) ∨
    ∃ server', tx.finish action backend =
        (.ok (), ⟨{ tx.connection with link := ⟨none⟩ }, true⟩, { backend with server := server' }) ∧
      ∀ kind, backend.server.ended kind server' = if kind = action then 1 else 0 := by
  obtain ⟨connection, _ | _⟩ := tx
  · replace h : connection.link.pending = some texts := h
    cases action with
    | commit =>
      rcases connection.link.commit_cases backend.server with
        ⟨error, server', he, change, refused⟩ | ⟨texts', server', _, he, change⟩
      · have refused : backend.server.faults.commit = true := by simpa [h] using refused
        refine .inl ⟨error, server', by simp [finish, commit, he], fun kind => ?_⟩
        cases kind with
        | commit => simp [Server.ended, refused]
        | rollback => simp [Server.ended, change.rollbacks]
      · have obliged := Link.obliged_of_commit he
        refine .inr ⟨server', by simp [finish, commit, he], fun kind => ?_⟩
        cases kind with
        | commit => simp [Server.ended, obliged, change.commits]
        | rollback => simp [Server.ended, change.rollbacks]
    | rollback =>
      rcases connection.link.rollback_cases backend.server with
        ⟨error, server', he, change, refused⟩ | ⟨texts', server', _, he, change⟩
      · have refused : backend.server.faults.rollback = true := by simpa [h] using refused
        refine .inl ⟨error, server', by simp [finish, rollback, he], fun kind => ?_⟩
        cases kind with
        | commit => simp [Server.ended, change.commits]
        | rollback => simp [Server.ended, refused]
      · have obliged := Link.obliged_of_rollback he
        refine .inr ⟨server', by simp [finish, rollback, he], fun kind => ?_⟩
        cases kind with
        | commit => simp [Server.ended, change.commits]
        | rollback => simp [Server.ended, obliged, change.rollbacks]
  · refine .inl ⟨.closed, backend.server, ?_, fun kind => backend.server.ended_self kind⟩
    cases action <;> simp [finish, commit, rollback]

end ServerTransaction.Holds

namespace Transaction

variable {tx tx' : Transaction} {backend backend' : Backend} {texts : List String}

structure Counts (tx tx' : Transaction) (server server' : Server) : Prop where
  commits : tx'.carrierCommitted.toNat = tx.carrierCommitted.toNat + server.ended .commit server'
  rollbacks : tx'.rolledBack.toNat = tx.rolledBack.toNat + server.ended .rollback server'

theorem Counts.idle {server server' : Server} (idle : ∀ kind, server.ended kind server' = 0)
    (committed : tx'.carrierCommitted = tx.carrierCommitted)
    (rolledBack : tx'.rolledBack = tx.rolledBack) : Counts tx tx' server server' := by
  constructor
  · rw [committed, idle, Nat.add_zero]
  · rw [rolledBack, idle, Nat.add_zero]

theorem Attempt.counts (holds : ∀ carrier, tx.carrier = some carrier → carrier.Holds texts)
    (whole : tx.rolledBack = false) (uncommitted : tx.carrierCommitted = false) {action : ExitAction}
    {result : Except DriverError Unit} (attempt : Attempt action tx backend result tx' backend') :
    Counts tx tx' backend.server backend'.server := by
  cases attempt with
  | missing none => exact .idle (fun kind => backend.server.ended_self kind) rfl rfl
  | @refused carrier _ _ _ some finish =>
    rcases (holds carrier some).finish_ended action backend with
      ⟨error, server', he, idle⟩ | ⟨server', he, _⟩
    · cases he.symm.trans finish
      exact .idle idle rfl rfl
    · cases he.symm.trans finish
  | @done carrier _ _ some finish =>
    rcases (holds carrier some).finish_ended action backend with
      ⟨error, server', he, _⟩ | ⟨server', he, ended⟩
    · cases he.symm.trans finish
    · cases he.symm.trans finish
      rw [Backend.release_of_free rfl, Backend.giveBack_server]
      cases action with
      | commit => constructor <;> simp [settle, setStatus, ended, whole, uncommitted]
      | rollback => constructor <;> simp [settle, setStatus, ended, whole, uncommitted]

theorem Counts.pop {server server' : Server} (h : Counts tx tx' server server') :
    Counts tx tx'.pop server server' := by
  constructor
  · rw [pop_carrierCommitted, h.commits]
  · rw [pop_rolledBack, h.rollbacks]

theorem Step.counts (sound : tx.Sound)
    (holds : ∀ carrier, tx.carrier = some carrier → carrier.Holds texts) {call : Call}
    {answer : Except TransactionError Unit} (step : Step tx backend call answer tx' backend') :
    Counts tx tx' backend.server backend'.server := by
  have same : ∀ kind, backend.server.ended kind backend.server = 0 :=
    fun kind => backend.server.ended_self kind
  cases step with
  | lateForAll | lateForRoot | lateForLevel | lateForCommit | entered | noted | barred | closed =>
    exact .idle same rfl rfl
  | left => exact .idle same (pop_carrierCommitted tx) (pop_rolledBack tx)
  | committing undecided root attempt =>
    exact attempt.counts holds undecided.whole (sound.carrierCommitted_eq_false undecided.committed)
  | rollingBack whole uncommitted attempt =>
    exact attempt.counts holds whole (sound.carrierCommitted_eq_false uncommitted)
  | leaving whole uncommitted root attempt =>
    exact (attempt.counts holds whole (sound.carrierCommitted_eq_false uncommitted)).pop
  | @executed carrier _ sql _ _ some free run =>
    obtain ⟨texts, change⟩ := carrier.execute_change sql backend
    rw [run] at change
    exact .idle change.ended_eq_zero rfl rfl
  | @fetched carrier sql _ _ some free run =>
    obtain ⟨_, change⟩ := carrier.fetch_change sql backend
    rw [run] at change
    exact .idle change.ended_eq_zero rfl rfl

namespace Sound

theorem idle_of_over (h : tx.Sound) (spent : tx.carrier = none) {call : Call}
    {answer : Except TransactionError Unit} (step : Step tx backend call answer tx' backend') :
    backend' = backend ∧ (tx' = tx ∨ tx' = tx.pop ∧ ∃ action, call = .exit action) := by
  have decided (whole : tx.rolledBack = false) (uncommitted : tx.status ≠ .committed) : False := by
    obtain ⟨carrier, some⟩ := h.exists_carrier whole (h.carrierCommitted_eq_false uncommitted)
    cases spent.symm.trans some
  cases step with
  | lateForAll | lateForRoot | lateForLevel | lateForCommit | barred | closed => exact ⟨rfl, .inl rfl⟩
  | left => exact ⟨rfl, .inr ⟨rfl, _, rfl⟩⟩
  | entered whole uncommitted =>
    obtain ⟨carrier, some⟩ := h.exists_carrier whole uncommitted
    cases spent.symm.trans some
  | noted undecided => exact (decided undecided.whole undecided.committed).elim
  | committing undecided => exact (decided undecided.whole undecided.committed).elim
  | rollingBack whole uncommitted => exact (decided whole uncommitted).elim
  | leaving whole uncommitted => exact (decided whole uncommitted).elim
  | executed some | fetched some => cases spent.symm.trans some

theorem status_of_carrierCommitted (h : tx.Sound) (committed : tx.carrierCommitted = true) :
    tx.status = .committed :=
  (h.carrierCommitted_iff.mp committed).2

theorem exit_of_over (h : tx.Sound) (spent : tx.carrier = none) (action : ExitAction)
    (backend : Backend) : tx.exit action backend = (.ok (), tx.pop, backend) := by
  have decided : tx.rolledBack = true ∨ tx.status = .committed := by
    rcases h.carrier_eq_none.mp spent with committed | rolledBack
    · exact .inr (h.status_of_carrierCommitted committed)
    · exact .inl rolledBack
  cases action with
  | commit => rcases decided with rolledBack | committed <;> simp [exit, autoCommit, *]
  | rollback => rcases decided with rolledBack | committed <;> simp [exit, autoRollback, *]

theorem late_of_carrierCommitted (h : tx.Sound) (committed : tx.carrierCommitted = true)
    {call : Call} (asks : call = .begin ∨ call = .commit ∨ call = .rollback) (backend : Backend) :
    ∃ reason, (call.perform tx backend).1 = .error (.alreadyCommitted reason) := by
  have whole : tx.rolledBack = false :=
    Bool.eq_false_iff.mpr fun rolledBack => h.not_both ⟨committed, rolledBack⟩
  have status := h.status_of_carrierCommitted committed
  rcases asks with rfl | rfl | rfl
  · exact ⟨_, by simp [Call.perform, begin, whole, committed]; rfl⟩
  · exact ⟨_, by simp [Call.perform, commit, whole, status]; rfl⟩
  · exact ⟨_, by simp [Call.perform, rollback, whole, status]; rfl⟩

end Sound

theorem late_of_rolledBack (rolledBack : tx.rolledBack = true) {call : Call}
    (asks : call = .begin ∨ call = .commit ∨ call = .rollback) (backend : Backend) :
    (call.perform tx backend).1 = .error .nestedRolledBack := by
  rcases asks with rfl | rfl | rfl
  · simp [Call.perform, begin, rolledBack]
  · simp [Call.perform, commit, rolledBack]
  · simp [Call.perform, rollback, rolledBack]

theorem execute_of_over (spent : tx.carrier = none) {sql : String} (free : barred? sql = none)
    (backend : Backend) : tx.execute sql backend = (.error (.driver .closed), tx, backend) := by
  simp [execute, free, spent]

theorem fetch_of_over (spent : tx.carrier = none) {sql : String} (free : barred? sql = none)
    (backend : Backend) : tx.fetch sql backend = (.error (.driver .closed), backend) := by
  simp [fetch, free, spent]

end Transaction

end NestedTx
